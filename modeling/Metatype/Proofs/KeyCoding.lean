import Metatype.PropertyKey
import Mathlib.Data.List.Chain

/-!
# Coded property keys

A key is coded as an identifier one character at a time, each special character by its coded form.
The forms are read off from the left, the longest first, so that the forms of neighbours could be
taken for one. Only a dot is in danger: its form is half of that of an underscore.

* `PropertyKey.pieces_codeOf`: the form of one character, whatever text follows it.
* `PropertyKey.hyphen_mem_pieces`: hyphens are neither lost nor made up.
* `PropertyKey.ofIdentifier_identifier`: the keys that are read back, and the revision they need.
-/

namespace Metatype.PropertyKey

/-! ## Coding -/

/-- The form of a character of a key in an identifier. -/
def codeOf : Char → List Char
  | '.' => ['_']
  | '_' => ['_', '_']
  | '-' => ['$', '_', '$']
  | '$' => ['$', '$']
  | c => [c]

/-- The identifier that a key is coded as. -/
def identifier (key : String) : String := String.ofList (key.toList.flatMap codeOf)

/-- The piece that stands for a character of a key. -/
def Piece.ofChar : Char → Piece
  | '.' => .dot
  | '_' => .underscore
  | '-' => .hyphen
  | '$' => .dollar
  | c => .plain c

/-- No dot is followed by a dot or an underscore. -/
def KeepsDotsApart (key : List Char) : Prop :=
  key.IsChain fun c next => c = '.' → next ≠ '.' ∧ next ≠ '_'

theorem Piece.text_ofChar (c : Char) : (ofChar c).text = [c] := by
  unfold ofChar
  split <;> rfl

theorem Piece.hyphen_eq_ofChar_iff (c : Char) : .hyphen = ofChar c ↔ '-' = c := by
  rw [eq_comm, eq_comm (a := '-')]
  unfold ofChar
  split <;> simp_all

theorem pieces_plain {c : Char} (hunderscore : c ≠ '_') (hdollar : c ≠ '$') (rest : List Char) :
    pieces (c :: rest) = .plain c :: pieces rest := by
  rw [pieces]
  · exact fun _ h _ => hunderscore h
  · exact hunderscore
  · exact fun _ h _ => hdollar h
  · exact fun _ h _ => hdollar h
  · exact hdollar

theorem pieces_dot {rest : List Char} (h : rest.head? ≠ some '_') :
    pieces ('_' :: rest) = .dot :: pieces rest := by
  rw [pieces]
  rintro after rfl
  exact h rfl

theorem pieces_underscore (rest : List Char) :
    pieces ('_' :: '_' :: rest) = .underscore :: pieces rest := rfl

/-- A coded text starts with an underscore if it codes a dot or an underscore first. -/
theorem head?_code (key : List Char) :
    (key.flatMap codeOf).head? = some '_' ↔ key.head? = some '.' ∨ key.head? = some '_' := by
  cases key with
  | nil => simp
  | cons c rest =>
    rw [List.flatMap_cons, List.head?_cons, Option.some.injEq, Option.some.injEq]
    unfold codeOf
    split <;> simp_all

/-! ## Reading a coded key -/

/-- The form of a character is read as a piece of its own. After that of a dot there must not be an
underscore. -/
theorem pieces_codeOf {c : Char} {rest : List Char} (h : c = '.' → rest.head? ≠ some '_') :
    pieces (codeOf c ++ rest) = .ofChar c :: pieces rest := by
  unfold codeOf Piece.ofChar
  split
  · exact pieces_dot (h rfl)
  · rfl
  · rfl
  · rfl
  · rename_i hunderscore hhyphen hdollar
    exact pieces_plain hunderscore hdollar rest

theorem pieces_of_keepsDotsApart {key : List Char} (h : KeepsDotsApart key) :
    pieces (key.flatMap codeOf) = key.map Piece.ofChar := by
  induction key with
  | nil => rfl
  | cons c rest ih =>
    obtain ⟨hnext, hrest⟩ := List.isChain_cons.1 h
    have hapart : c = '.' → (rest.flatMap codeOf).head? ≠ some '_' := by
      intro hc hhead
      rcases (head?_code rest).1 hhead with hdot | hunderscore
      · exact (hnext '.' hdot hc).1 rfl
      · exact (hnext '_' hunderscore hc).2 rfl
    rw [List.flatMap_cons, List.map_cons, pieces_codeOf hapart, ih hrest]

theorem flatMap_text_map_ofChar (key : List Char) :
    (key.map Piece.ofChar).flatMap Piece.text = key := by
  induction key with
  | nil => rfl
  | cons c rest ih =>
    rw [List.map_cons, List.flatMap_cons, Piece.text_ofChar, ih, List.singleton_append]

/-- A key that is read back keeps its dots apart: where a dot is not, it is read as an underscore
together with what follows it. -/
theorem keepsDotsApart_of_text {key : List Char}
    (h : (pieces (key.flatMap codeOf)).flatMap Piece.text = key) : KeepsDotsApart key := by
  induction key with
  | nil => exact .nil
  | cons c rest ih =>
    rw [List.flatMap_cons] at h
    by_cases hmerged : c = '.' ∧ (rest.flatMap codeOf).head? = some '_'
    · obtain ⟨rfl, hhead⟩ := hmerged
      obtain ⟨after, hafter⟩ := List.head?_eq_some_iff.1 hhead
      rw [hafter] at h
      cases h
    · have hapart : c = '.' → (rest.flatMap codeOf).head? ≠ some '_' := not_and.1 hmerged
      rw [pieces_codeOf hapart, List.flatMap_cons, Piece.text_ofChar, List.singleton_append,
        List.cons.injEq] at h
      refine List.isChain_cons.2 ⟨fun next hnext hc => ?_, ih h.2⟩
      have hhead := mt (head?_code rest).2 (hapart hc)
      rw [hnext] at hhead
      simpa using hhead

/-! ## Hyphens -/

/-- Hyphens are neither lost nor made up, also where an underscore stands before the coded text and
shifts how underscores are paired. -/
theorem hyphen_mem_pieces (key : List Char) :
    (.hyphen ∈ pieces (key.flatMap codeOf) ↔ '-' ∈ key) ∧
      (.hyphen ∈ pieces ('_' :: key.flatMap codeOf) ↔ '-' ∈ key) := by
  induction key with
  | nil => simp [pieces]
  | cons c rest ih =>
    obtain ⟨ihplain, ihshifted⟩ := ih
    rw [List.flatMap_cons]
    by_cases hdot : c = '.'
    · subst hdot
      change (_ ∈ pieces ('_' :: rest.flatMap codeOf) ↔ _) ∧
        (_ ∈ pieces ('_' :: '_' :: rest.flatMap codeOf) ↔ _)
      rw [pieces_underscore]
      simp [ihplain, ihshifted]
    by_cases hunderscore : c = '_'
    · subst hunderscore
      change (_ ∈ pieces ('_' :: '_' :: rest.flatMap codeOf) ↔ _) ∧
        (_ ∈ pieces ('_' :: '_' :: '_' :: rest.flatMap codeOf) ↔ _)
      rw [pieces_underscore, pieces_underscore]
      simp [ihplain, ihshifted]
    have hhead : (codeOf c ++ rest.flatMap codeOf).head? ≠ some '_' := by
      have hcode := mt (head?_code (c :: rest)).1 (by simp [hdot, hunderscore])
      rwa [List.flatMap_cons] at hcode
    rw [pieces_dot hhead, pieces_codeOf fun hc => absurd hc hdot]
    simp [ihplain, Piece.hyphen_eq_ofChar_iff]

/-! ## Keys and identifiers -/

/-- A key is read back from the identifier that it is coded as exactly if no dot in it is followed by
a dot or an underscore. In any case the revision that the identifier needs is that of the hyphen, if
the key has one. -/
theorem ofIdentifier_identifier (key : String) :
    ((ofIdentifier (identifier key)).key = key ↔ KeepsDotsApart key.toList) ∧
      (ofIdentifier (identifier key)).requires = if '-' ∈ key.toList then some .v1_4 else none := by
  have hkey : (ofIdentifier (identifier key)).key =
      String.ofList ((pieces (key.toList.flatMap codeOf)).flatMap Piece.text) := by
    rw [ofIdentifier, identifier, String.toList_ofList]
  have hrequires : (ofIdentifier (identifier key)).requires =
      if .hyphen ∈ pieces (key.toList.flatMap codeOf) then some .v1_4 else none := by
    rw [ofIdentifier, identifier, String.toList_ofList]
  constructor
  · rw [hkey, ← String.toList_inj, String.toList_ofList]
    constructor
    · exact keepsDotsApart_of_text
    · intro h
      rw [pieces_of_keepsDotsApart h, flatMap_text_map_ofChar]
  · rw [hrequires]
    simp only [(hyphen_mem_pieces key.toList).1]

/-- Two dots share a form with an underscore. -/
example : (ofIdentifier (identifier "a..b")).key = "a_b" := by decide

end Metatype.PropertyKey
