import Metatype.PropertyKey

/-!
# The text of shorthand keys

A shorthand key is made in one pass that remembers whether the character before was a small letter.
For a name whose capitals are in ASCII it is put together from parts, one for each place of the name:
the character there in lower case, behind a dot if it is a capital that follows a small letter. No
capitals are left then, so that a shorthand key is its own shorthand key.

* `shorthandChars_eq`: the parts, whatever character stands before the text.
* `shorthandChars_of_small`: text without capitals is kept.
* `shorthandKey_parted`: a shorthand key by places of the name, and the shorthand key of that key.
-/

namespace Metatype

open Text (forall_ascii isLower isUpper)

/-! ## Parts -/

/-- The character before a place of a text, which is `first` for the first place. -/
def charBefore (first : Option Char) (s : List Char) (i : Nat) : Option Char :=
  if i = 0 then first else s[i - 1]?

theorem charBefore_succ (first : Option Char) (c : Char) (s : List Char) (i : Nat) :
    charBefore first (c :: s) (i + 1) = charBefore (some c) s i := by
  cases i <;> rfl

/-- What a character contributes to a shorthand key. A capital becomes a small letter, with a dot if
the character before it is a small letter. -/
def shorthandPart (before : Option Char) (c : Char) : List Char :=
  if isUpper c then (if before.any isLower then ['.', c.toLower] else [c.toLower]) else [c]

theorem small_of_isUpper : ∀ c : Char, c.toNat < 128 → isUpper c = true →
    isLower c = false ∧ isUpper c.toLower = false := forall_ascii (by decide)

theorem not_isUpper_of_mem_shorthandPart {before : Option Char} {c d : Char}
    (hc : isUpper c = true → c.toNat < 128) (hd : d ∈ shorthandPart before c) :
    isUpper d = false := by
  cases hupper : isUpper c with
  | false =>
    rw [shorthandPart, if_neg (by simp [hupper]), List.mem_singleton] at hd
    rw [hd, hupper]
  | true =>
    obtain ⟨-, hsmall⟩ := small_of_isUpper c (hc hupper) hupper
    have hcases : d = '.' ∨ d = c.toLower := by
      rw [shorthandPart, if_pos hupper] at hd
      split at hd <;> simp_all
    rcases hcases with rfl | rfl
    · decide
    · exact hsmall

/-! ## The pass over a name -/

/-- What the pass remembers of the character before is whether it is a small letter: after a capital
that is false, as no capital of ASCII is a small letter. -/
theorem shorthandChars_eq {s : List Char} (hs : ∀ c ∈ s, isUpper c = true → c.toNat < 128)
    (first : Option Char) :
    shorthandChars (first.any isLower) s =
      (s.mapIdx fun i c => shorthandPart (charBefore first s i) c).flatten := by
  induction s generalizing first with
  | nil => rfl
  | cons c rest ih =>
    obtain ⟨hc, hrest⟩ := List.forall_mem_cons.1 hs
    have hfollow : shorthandChars (isLower c) rest = _ := ih hrest (some c)
    simp only [List.mapIdx_cons, List.flatten_cons, charBefore_succ]
    rw [← hfollow, shorthandChars]
    change _ = shorthandPart first c ++ shorthandChars (isLower c) rest
    cases hupper : isUpper c with
    | false => simp [shorthandPart, hupper]
    | true =>
      have hascii := hc hupper
      obtain ⟨hlower, -⟩ := small_of_isUpper c hascii hupper
      rw [if_pos rfl, Text.lower_ascii hascii, hlower, shorthandPart, if_pos hupper]
      split <;> rfl

theorem shorthandChars_of_small {s : List Char} (hs : ∀ c ∈ s, isUpper c = false)
    (afterLower : Bool) : shorthandChars afterLower s = s := by
  induction s generalizing afterLower with
  | nil => rfl
  | cons c rest ih =>
    obtain ⟨hc, hrest⟩ := List.forall_mem_cons.1 hs
    rw [shorthandChars, if_neg (by simp [hc]), ih hrest]

/-! ## Shorthand keys -/

/-- The shorthand key of a name whose capitals are in ASCII is the name in small letters, with a dot
before each capital that follows a small letter and nowhere else. It has no capitals and is its own
shorthand key. -/
theorem shorthandKey_parted {name : String}
    (h : ∀ c ∈ name.toList, isUpper c = true → c.toNat < 128) :
    (shorthandKey name).toList =
        (name.toList.mapIdx fun i c => shorthandPart (charBefore none name.toList i) c).flatten ∧
      (∀ c ∈ (shorthandKey name).toList, isUpper c = false) ∧
      shorthandKey (shorthandKey name) = shorthandKey name := by
  have hparts : (shorthandKey name).toList = _ :=
    String.toList_ofList.trans (shorthandChars_eq h none)
  have hsmall : ∀ c ∈ (shorthandKey name).toList, isUpper c = false := by
    rw [hparts]
    intro d hd
    obtain ⟨part, hpart, hd⟩ := List.mem_flatten.1 hd
    obtain ⟨i, hi, rfl⟩ := List.mem_mapIdx.1 hpart
    exact not_isUpper_of_mem_shorthandPart (h _ (List.getElem_mem hi)) hd
  refine ⟨hparts, hsmall, ?_⟩
  rw [← String.toList_inj, shorthandKey, String.toList_ofList, shorthandChars_of_small hsmall]

/-- Small letters beyond ASCII, a run of capitals, and a capital behind a digit. -/
theorem shorthandKey_parted_osgi :
    (∀ c ∈ "größeOSGiMax2Min".toList, isUpper c = true → c.toNat < 128) ∧
      shorthandKey "größeOSGiMax2Min" = "größe.osgi.max2min" ∧
      (∀ c ∈ "größe.osgi.max2min".toList, isUpper c = false) ∧
      shorthandKey "größe.osgi.max2min" = "größe.osgi.max2min" := by
  have hcapitals : ∀ c ∈ "größeOSGiMax2Min".toList, isUpper c = true → c.toNat < 128 := by
    have hvowel : isUpper 'ö' = false := by decide
    have hsharp : isUpper 'ß' = false := by decide
    simp [hvowel, hsharp]
  obtain ⟨hparts, hsmall, hagain⟩ := shorthandKey_parted hcapitals
  have hkey : shorthandKey "größeOSGiMax2Min" = "größe.osgi.max2min" := by
    rw [← String.toList_inj, hparts]
    decide +kernel
  rw [hkey] at hsmall hagain
  exact ⟨hcapitals, hkey, hsmall, hagain⟩

end Metatype
