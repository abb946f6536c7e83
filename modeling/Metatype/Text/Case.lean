import Metatype.Text.CaseTable

/-!
# Letter case

Upper and lower case of a character in full: a character may map to several (`ß` to `SS`), and a
character without a mapping stays as it is. ASCII is decided by arithmetic, the rest by table.

* `mapCase_cases`: the images that a mapping has.
* `forall_ascii`: statements about the characters of ASCII.
* `lower_eq_of_not_upper_ascii`, `upper_eq_of_not_lower_ascii`: ASCII characters of the other case
  and those without case are fixed.
-/

namespace Metatype.Text

/-! ## Looking up the tables -/

/-- The image of a character: several characters if listed so, else the image under its run, else
the character. -/
def mapCase (sequences : List (Nat × List Nat)) (runs : List ShiftRun) (c : Char) : List Char :=
  match sequences.lookup c.toNat with
  | some image => image.map Char.ofNat
  | none =>
    match runs.findSome? (ShiftRun.shift? · c.toNat) with
    | some n => [Char.ofNat n]
    | none => [c]

/-- What is true of each listed image, of each image under a run and of the character alone is true
of the image of a character. -/
theorem mapCase_cases {P : List Char → Prop} {sequences : List (Nat × List Nat)}
    {runs : List ShiftRun} {c : Char} (sequence : ∀ p ∈ sequences, P (p.2.map Char.ofNat))
    (run : ∀ r ∈ runs, ∀ n : Nat, r.first ≤ n → n ≤ r.last → P [Char.ofNat (n + r.offset).toNat])
    (self : P [c]) : P (mapCase sequences runs c) := by
  unfold mapCase
  split
  · rename_i image himage
    obtain ⟨before, after, rfl, -⟩ := List.lookup_eq_some_iff.1 himage
    exact sequence (c.toNat, image) (by simp)
  · split
    · rename_i n hn
      obtain ⟨r, hr, hshift⟩ := List.exists_of_findSome?_eq_some hn
      simp only [ShiftRun.shift?, Option.ite_none_right_eq_some, Run.holds, Bool.and_eq_true,
        decide_eq_true_eq, Option.some.injEq] at hshift
      obtain ⟨⟨⟨hfirst, hlast⟩, -⟩, rfl⟩ := hshift
      exact run r hr c.toNat hfirst hlast
    · exact self

/-! ## Mappings and properties -/

/-- The lower case of a character. -/
def lower (c : Char) : List Char :=
  if c.toNat < 128 then [c.toLower] else mapCase lowerSequences lowerRuns c

/-- The upper case of a character. -/
def upper (c : Char) : List Char :=
  if c.toNat < 128 then [c.toUpper] else mapCase upperSequences upperRuns c

/-- A text in lower case, character by character. -/
def lowerCase (s : String) : String := String.ofList (s.toList.flatMap lower)

/-- The property Uppercase. -/
def isUpper (c : Char) : Bool :=
  if c.toNat < 128 then c.isUpper else uppercaseRuns.any (·.holds c.toNat)

/-- The property Lowercase. -/
def isLower (c : Char) : Bool :=
  if c.toNat < 128 then c.isLower else lowercaseRuns.any (·.holds c.toNat)

/-! ## ASCII -/

/-- What is true of the characters below 128 one by one is true of all ASCII. -/
theorem forall_ascii {P : Char → Prop} (h : ∀ n < 128, P (Char.ofNat n)) :
    ∀ c : Char, c.toNat < 128 → P c := by
  intro c hc
  have hchar := h c.toNat hc
  rwa [Char.ofNat_toNat] at hchar

theorem lower_ascii {c : Char} (h : c.toNat < 128) : lower c = [c.toLower] := by
  simp [lower, h]

theorem upper_ascii {c : Char} (h : c.toNat < 128) : upper c = [c.toUpper] := by
  simp [upper, h]

theorem lower_eq_of_not_upper_ascii {c : Char} (h : c.toNat < 128) (hu : c.isUpper = false) :
    lower c = [c] := by
  rw [lower_ascii h]
  exact congrArg (fun d => [d]) (dif_neg (of_decide_eq_false hu))

theorem upper_eq_of_not_lower_ascii {c : Char} (h : c.toNat < 128) (hl : c.isLower = false) :
    upper c = [c] := by
  have hc : ¬('a'.val ≤ c.val ∧ c.val ≤ 'z'.val) := fun hc => by
    have : c.isLower = true := Bool.and_eq_true_iff.2 ⟨decide_eq_true hc.1, decide_eq_true hc.2⟩
    simp [this] at hl
  rw [upper_ascii h]
  exact congrArg (fun d => [d]) (dif_neg hc)

end Metatype.Text
