import Metatype.Proofs.KeyCoding

/-!
# Identifiers around a plain character

The coded forms in an identifier are made of underscores and dollar signs, so none of them reaches
across any other character. An identifier can be read in parts between such characters.

* `PropertyKey.pieces_append_plain`: the pieces before and after a plain character.
* `PropertyKey.count_text_pieces`: the hyphens of a key, those of the identifier and the coded ones.
* `PropertyKey.ofIdentifier_local`: the keys of the parts, and when an identifier needs a revision.
-/

namespace Metatype.PropertyKey

/-! ## Pieces -/

/-- A dollar sign stands for nothing if no coded form starts with it. -/
theorem pieces_nothing {rest : List Char} (hdollar : rest.head? ≠ some '$')
    (hhyphen : ∀ after, rest ≠ '_' :: '$' :: after) :
    pieces ('$' :: rest) = .nothing :: pieces rest := by
  rw [pieces]
  · rintro after rfl
    exact hhyphen after rfl
  · rintro after rfl
    exact hdollar rfl

theorem head?_append_plain {c d : Char} (hc : c ≠ d) {a : List Char}
    (ha : ∀ after, a ≠ d :: after) (b : List Char) : (a ++ c :: b).head? ≠ some d := by
  intro h
  cases a with
  | nil => exact hc (Option.some.inj h)
  | cons x rest => exact ha rest (congrArg (· :: rest) (Option.some.inj h))

/-- A plain character is a piece of its own, and the text on either side of it is cut up as if the
other side were not there. -/
theorem pieces_append_plain {c : Char} (hunderscore : c ≠ '_') (hdollar : c ≠ '$')
    (a b : List Char) : pieces (a ++ c :: b) = pieces a ++ .plain c :: pieces b := by
  fun_induction pieces a with
  | case1 rest ih => exact congrArg (Piece.underscore :: ·) ih
  | case2 rest hnext ih =>
    rw [List.cons_append, pieces_dot (head?_append_plain hunderscore hnext b), ih]
    rfl
  | case3 rest ih => exact congrArg (Piece.hyphen :: ·) ih
  | case4 rest ih => exact congrArg (Piece.dollar :: ·) ih
  | case5 rest hhyphen hnext ih =>
    have hcut : ∀ after, rest ++ c :: b ≠ '_' :: '$' :: after := by
      intro after h
      match rest with
      | [] => exact hunderscore (List.cons.inj h).1
      | [x] => exact hdollar (List.cons.inj (List.cons.inj h).2).1
      | x :: y :: more =>
        obtain ⟨hx, h⟩ := List.cons.inj h
        obtain ⟨hy, -⟩ := List.cons.inj h
        exact hhyphen more (by rw [hx, hy])
    rw [List.cons_append, pieces_nothing (head?_append_plain hdollar hnext b) hcut, ih]
    rfl
  | case6 x rest _ hx _ _ hx' ih =>
    rw [List.cons_append, pieces_plain hx hx', ih]
    rfl
  | case7 => exact pieces_plain hunderscore hdollar b

/-- Text without underscores and dollar signs is cut into its characters. -/
theorem pieces_of_plain {s : List Char} (hunderscore : '_' ∉ s) (hdollar : '$' ∉ s) :
    pieces s = s.map .plain := by
  induction s with
  | nil => rfl
  | cons c rest ih =>
    rw [List.mem_cons, not_or] at hunderscore hdollar
    rw [pieces_plain (Ne.symm hunderscore.1) (Ne.symm hdollar.1), ih hunderscore.2 hdollar.2]
    rfl

/-! ## Hyphens -/

/-- A hyphen of a key is one of the identifier or stands for a coded form, and none gets lost. -/
theorem count_text_pieces (s : List Char) :
    ((pieces s).flatMap Piece.text).count '-' = s.count '-' + (pieces s).count .hyphen := by
  fun_induction pieces s with
  | case1 rest ih => simpa [Piece.text] using ih
  | case2 rest _ ih => simpa [Piece.text] using ih
  | case3 rest ih =>
    simp only [List.flatMap_cons, Piece.text, List.singleton_append, List.count_cons_self]
    simp [ih]
    omega
  | case4 rest ih => simpa [Piece.text] using ih
  | case5 rest _ _ ih => simpa [Piece.text] using ih
  | case6 x rest _ _ _ _ _ ih =>
    simp [Piece.text, List.count_cons, ih]
    omega
  | case7 => rfl

/-! ## Keys -/

theorem key_ofIdentifier (name : String) :
    (ofIdentifier name).key = String.ofList ((pieces name.toList).flatMap Piece.text) := rfl

theorem requires_ofIdentifier (name : String) :
    (ofIdentifier name).requires = if .hyphen ∈ pieces name.toList then some .v1_4 else none := rfl

theorem requires_eq_some_iff (name : String) :
    (ofIdentifier name).requires = some .v1_4 ↔ .hyphen ∈ pieces name.toList := by
  rw [requires_ofIdentifier]
  split <;> simp [*]

/-- An identifier is read in parts between characters other than underscores and dollar signs: the
key is made of the keys of the parts, and the latest revision is needed if one of them needs it. So
an identifier without these two characters is its own key. Any identifier needs the latest revision
if its key has more hyphens than it has itself, and no revision otherwise. -/
theorem ofIdentifier_local :
    (∀ (a b : String) (c : Char), c ≠ '_' → c ≠ '$' →
      (ofIdentifier (a ++ c.toString ++ b)).key =
          (ofIdentifier a).key ++ c.toString ++ (ofIdentifier b).key ∧
        ((ofIdentifier (a ++ c.toString ++ b)).requires = some .v1_4 ↔
          (ofIdentifier a).requires = some .v1_4 ∨ (ofIdentifier b).requires = some .v1_4)) ∧
    (∀ name : String, '_' ∉ name.toList → '$' ∉ name.toList →
      ofIdentifier name = ⟨name, none⟩) ∧
    ∀ name : String, (ofIdentifier name).requires =
      if name.toList.count '-' < (ofIdentifier name).key.toList.count '-' then some .v1_4
      else none := by
  refine ⟨fun a b c hunderscore hdollar => ?_, fun name hunderscore hdollar => ?_, fun name => ?_⟩
  · have htext : (a ++ c.toString ++ b).toList = a.toList ++ c :: b.toList := by
      simp [Char.toString]
    have hpieces := pieces_append_plain hunderscore hdollar a.toList b.toList
    constructor
    · rw [← String.toList_inj, key_ofIdentifier, htext, hpieces]
      simp [key_ofIdentifier, Piece.text, Char.toString]
    · simp only [requires_eq_some_iff, htext, hpieces, List.mem_append, List.mem_cons,
        reduceCtorEq, false_or]
  · have hpieces := pieces_of_plain hunderscore hdollar
    have hkey : (ofIdentifier name).key = name := by
      rw [key_ofIdentifier, hpieces, ← String.toList_inj, String.toList_ofList, List.flatMap_map]
      exact List.flatMap_singleton' _
    have hrequires : (ofIdentifier name).requires = none := by
      rw [requires_ofIdentifier, hpieces]
      simp
    exact congrArg₂ PropertyKey.mk hkey hrequires
  · rw [requires_ofIdentifier, key_ofIdentifier, String.toList_ofList, count_text_pieces]
    refine ite_congr ?_ (fun _ => rfl) fun _ => rfl
    rw [Nat.lt_add_right_iff_pos, List.count_pos_iff]

/-- The underscore before the dot and the dollar sign after it make no coded form together. -/
theorem ofIdentifier_local_host :
    ofIdentifier ("a$_" ++ '.'.toString ++ "$b$_$c") = ⟨"a..b-c", some .v1_4⟩ ∧
      ofIdentifier "maxRetryCount" = ⟨"maxRetryCount", none⟩ := by
  obtain ⟨hlocal, hplain, -⟩ := ofIdentifier_local
  obtain ⟨hkey, hrequires⟩ := hlocal "a$_" "$b$_$c" '.' (by decide) (by decide)
  have hcoded : (ofIdentifier "$b$_$c").requires = some .v1_4 := by decide
  refine ⟨?_, hplain "maxRetryCount" (by decide) (by decide)⟩
  exact congrArg₂ PropertyKey.mk (hkey.trans (by decide)) (hrequires.2 (.inr hcoded))

end Metatype.PropertyKey
