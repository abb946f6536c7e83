import Metatype.Proofs.ReturnText
import Metatype.Proofs.VersionText
import Metatype.Revision

/-!
# The texts of revisions

A text names a revision if it is completed to the semantic version of that revision. What is added
depends on how many dots the text has, wherever they stand; still, nothing but numbers is completed.

* `Revision.complete_eq_chars_iff`: the texts that are completed to the text of a version.
* `Revision.parse_complete_eq_ok_iff`: the texts that are completed to the version of a revision.
* `Revision.parse_outcome`: when a text names a revision, and what is reported when it names none.
-/

namespace Metatype

open SemanticVersion (IsValid marked chars)

/-! ## Blanks around a text -/

namespace Text

/-- Blanks around a text are taken off, whatever stands between them. -/
theorem trim_append_append {before after : List Char}
    (h : ∀ c ∈ before ++ after, isBlank c = true) (s : List Char) :
    trim (before ++ s ++ after) = trim s := by
  have hbefore : ∀ c ∈ before, isBlank c = true := fun c hc => h c (List.mem_append_left _ hc)
  have hafter : ∀ c ∈ after, isBlank c = true := fun c hc => h c (List.mem_append_right _ hc)
  have hstart : trimStart (before ++ s ++ after) = trimStart (s ++ after) := by
    rw [trimStart, List.append_assoc, List.dropWhile_append_of_pos hbefore, trimStart]
  rw [trim, hstart]
  unfold trimStart
  rw [List.dropWhile_append]
  split
  · rename_i hs
    have hnil : after.dropWhile isBlank = [] := List.dropWhile_eq_nil_iff.2 hafter
    rw [hnil, trim, trimStart, trimStart, List.isEmpty_iff.1 hs]
  · have hafter' : ∀ c ∈ after.reverse, isBlank c = true := fun c hc =>
      hafter c (List.mem_reverse.1 hc)
    rw [List.reverse_append, List.dropWhile_append_of_pos hafter']
    rfl

theorem trim_eq_iff {core : List Char} (hcore : trim core = core) {s : List Char} :
    trim s = core ↔ ∃ before after, (∀ c ∈ before ++ after, isBlank c = true) ∧
      s = before ++ core ++ after := by
  constructor
  · rintro rfl
    obtain ⟨before, after, hbefore, hafter, hstart, hend⟩ := exists_blanks s
    refine ⟨before, after, fun c hc => ?_, ?_⟩
    · exact (List.mem_append.1 hc).elim (hbefore c) (hafter c)
    · rw [List.append_assoc, ← hend, ← hstart]
  · rintro ⟨before, after, hblanks, rfl⟩
    rw [trim_append_append hblanks, hcore]

end Text

namespace Revision

/-! ## Completed texts -/

theorem dot_not_mem_toDigits (n : Nat) : '.' ∉ Nat.toDigits 10 n := fun h =>
  absurd (SemanticVersion.isDigit_of_mem_toDigits h) (by decide)

theorem count_dot_toDigits (n : Nat) : (Nat.toDigits 10 n).count '.' = 0 :=
  List.count_eq_zero.2 (dot_not_mem_toDigits n)

/-- Texts are cut alike at their first dots. -/
theorem append_dot_inj {a b x y : List Char} (ha : '.' ∉ a) (hb : '.' ∉ b) :
    a ++ '.' :: x = b ++ '.' :: y ↔ a = b ∧ x = y := by
  constructor
  · intro h
    have hsplit := congrArg (List.splitOn '.') h
    rw [List.splitOn_append_cons_self_of_not_mem ha,
      List.splitOn_append_cons_self_of_not_mem hb] at hsplit
    obtain ⟨rfl, -⟩ := List.cons.inj hsplit
    exact ⟨rfl, (List.cons.inj (List.append_cancel_left h)).2⟩
  · rintro ⟨rfl, rfl⟩
    rfl

/-- Nothing of a version matters but its first two numbers. -/
def EndsInZero (v : SemanticVersion) : Prop := v.patch = 0 ∧ v.preRelease = [] ∧ v.build = []

theorem marked_eq_nil_iff {mark : Char} {ids : List (List Char)} :
    marked mark ids = [] ↔ ids = [] := by
  cases ids <;> simp [marked]

theorem zero_eq_iff (v : SemanticVersion) :
    ['0'] = Nat.toDigits 10 v.patch ++ (marked '-' v.preRelease ++ marked '+' v.build) ↔
      EndsInZero v := by
  constructor
  · intro h
    obtain ⟨c, digits, hdigits⟩ :=
      List.exists_cons_of_ne_nil (Nat.toDigits_ne_nil (n := v.patch) (b := 10))
    rw [hdigits, List.cons_append, List.cons.injEq] at h
    obtain ⟨rfl, hrest⟩ := h
    obtain ⟨hnil, hmarks⟩ := List.append_eq_nil_iff.1 hrest.symm
    obtain ⟨hpre, hbuild⟩ := List.append_eq_nil_iff.1 hmarks
    have hzero : Nat.toDigits 10 v.patch = Nat.toDigits 10 0 := by rw [hdigits, hnil]; rfl
    exact ⟨SemanticVersion.toDigits_inj hzero, marked_eq_nil_iff.1 hpre, marked_eq_nil_iff.1 hbuild⟩
  · rintro ⟨hpatch, hpre, hbuild⟩
    rw [hpatch, hpre, hbuild]
    rfl

/-- A text is completed to that of a version if it is the text of the version, or lacks zeros at the
end. A pre-release or build metadata completes no text. -/
theorem complete_eq_chars_iff {s : List Char} {v : SemanticVersion} :
    complete s = v.chars ↔ s = v.chars ∨ EndsInZero v ∧
      (s = Nat.toDigits 10 v.major ++ '.' :: Nat.toDigits 10 v.minor ∨
        v.minor = 0 ∧ s = Nat.toDigits 10 v.major) := by
  constructor
  · intro h
    unfold complete at h
    split at h
    · rename_i hcount
      have hs : '.' ∉ s := List.count_eq_zero.1 hcount
      change s ++ '.' :: (['0'] ++ '.' :: ['0']) = _ at h
      rw [chars, append_dot_inj hs (dot_not_mem_toDigits _),
        append_dot_inj (by decide) (dot_not_mem_toDigits _), zero_eq_iff] at h
      obtain ⟨hs, hminor, hends⟩ := h
      exact Or.inr ⟨hends, Or.inr ⟨(SemanticVersion.toDigits_inj (m := 0) hminor).symm, hs⟩⟩
    · rename_i hcount
      obtain ⟨front, back, rfl, hfront⟩ :=
        List.eq_append_cons_of_mem (List.count_pos_iff.1 (hcount ▸ Nat.one_pos))
      have hback : '.' ∉ back := by
        have hfront := List.count_eq_zero.2 hfront
        rw [List.count_append, List.count_cons_self, hfront] at hcount
        exact List.count_eq_zero.1 (by omega)
      rw [List.append_assoc, List.cons_append, chars,
        append_dot_inj hfront (dot_not_mem_toDigits _),
        append_dot_inj hback (dot_not_mem_toDigits _), zero_eq_iff] at h
      obtain ⟨rfl, rfl, hends⟩ := h
      exact Or.inr ⟨hends, Or.inl rfl⟩
    · exact Or.inl h
  · rintro (rfl | ⟨hends, rfl | ⟨hminor, rfl⟩⟩)
    · have hcount : 2 ≤ v.chars.count '.' := by
        rw [chars, List.count_append, List.count_cons_self, List.count_append, List.count_cons_self]
        omega
      unfold complete
      split
      · omega
      · omega
      · rfl
    · have hcount :
          (Nat.toDigits 10 v.major ++ '.' :: Nat.toDigits 10 v.minor).count '.' = 1 := by
        rw [List.count_append, List.count_cons_self, count_dot_toDigits, count_dot_toDigits]
      rw [complete, hcount, chars, ← (zero_eq_iff v).2 hends]
      simp
    · rw [complete, count_dot_toDigits, chars, ← (zero_eq_iff v).2 hends, hminor]
      rfl

/-! ## Names of revisions -/

/-- The numbers of a revision, with and without the third. -/
def numbers (r : Revision) : List (List Char) :=
  let two := ['1', '.', r.minor.digitChar]
  [two, two ++ ['.', '0']]

/-- The texts that name a revision: its numbers, with or without the letter `v`. -/
def names (r : Revision) : List (List Char) := r.numbers ++ r.numbers.map ('v' :: ·)

theorem isValid_version (r : Revision) : r.version.IsValid := by
  refine ⟨?_, ?_, ?_, by simp [version], by simp [version]⟩ <;> cases r <;> decide

theorem complete_eq_version_iff {s : List Char} {r : Revision} :
    complete s = r.version.chars ↔ s ∈ r.numbers := by
  have hends : EndsInZero r.version := ⟨rfl, rfl, rfl⟩
  have hminor : r.version.minor ≠ 0 := by cases r <;> decide
  have htwo : Nat.toDigits 10 r.version.major ++ '.' :: Nat.toDigits 10 r.version.minor =
      ['1', '.', r.minor.digitChar] := by cases r <;> rfl
  have hthree : r.version.chars = ['1', '.', r.minor.digitChar] ++ ['.', '0'] := by
    cases r <;> rfl
  rw [complete_eq_chars_iff, htwo, hthree]
  simp [numbers, hends, hminor, or_comm]

theorem bare_eq_nil_iff {s : List Char} :
    bare s = [] ↔ Text.trim s = [] ∨ Text.trim s = ['v'] := by
  unfold bare
  split
  · rename_i rest h
    simp [h]
  · rename_i hv
    have hne : Text.trim s ≠ ['v'] := hv []
    simp [hne]

theorem bare_mem_numbers_iff {s : List Char} {r : Revision} :
    bare s ∈ r.numbers ↔ Text.trim s ∈ r.names := by
  unfold bare
  split
  · rename_i rest h
    simp [names, numbers, h]
  · rename_i hv
    have hne : ∀ rest, 'v' :: rest ≠ Text.trim s := fun rest h => hv rest h.symm
    simp [names, hne]

theorem trim_name {r : Revision} : ∀ name ∈ r.names, Text.trim name = name := by
  cases r <;> decide

theorem trim_mem_names_iff {s : List Char} {r : Revision} :
    Text.trim s ∈ r.names ↔ ∃ before after name, (∀ c ∈ before ++ after, Text.isBlank c = true) ∧
      name ∈ r.names ∧ s = before ++ name ++ after := by
  constructor
  · intro h
    obtain ⟨before, after, hblanks, hs⟩ := (Text.trim_eq_iff (trim_name _ h)).1 rfl
    exact ⟨before, after, _, hblanks, h, hs⟩
  · rintro ⟨before, after, name, hblanks, hname, hs⟩
    rwa [(Text.trim_eq_iff (trim_name _ hname)).2 ⟨before, after, hblanks, hs⟩]

/-- The texts that are completed to the version of a revision: its names with blanks around them. -/
theorem parse_complete_eq_ok_iff {s : List Char} {r : Revision} :
    SemanticVersion.parse (complete (bare s)) = .ok r.version ↔
      ∃ before after name, (∀ c ∈ before ++ after, Text.isBlank c = true) ∧ name ∈ r.names ∧
        s = before ++ name ++ after := by
  rw [SemanticVersion.parse_eq_ok_iff, and_iff_right (isValid_version r), complete_eq_version_iff,
    bare_mem_numbers_iff, trim_mem_names_iff]

/-! ## Reading -/

/-- What is read, in terms of the version that the text is completed to. -/
theorem parse_cases (given : String) :
    let core := bare given.toList
    (core = [] ∧ parse given = .error (.empty given)) ∨ core ≠ [] ∧
      ((∃ fault, SemanticVersion.parse (complete core) = .error fault ∧
        parse given = .error (.malformed fault)) ∨
      (∃ v, SemanticVersion.parse (complete core) = .ok v ∧ (∀ r : Revision, v ≠ r.version) ∧
        parse given = .error (.unsupported given)) ∨
      (∃ r : Revision, SemanticVersion.parse (complete core) = .ok r.version ∧
        parse given = .ok r)) := by
  intro core
  by_cases hcore : core = []
  · exact Or.inl ⟨hcore, if_pos (List.isEmpty_iff.2 hcore)⟩
  have hempty : (bare given.toList).isEmpty = false := by simpa using hcore
  refine Or.inr ⟨hcore, ?_⟩
  cases hversion : SemanticVersion.parse (complete (bare given.toList)) with
  | error fault => exact Or.inl ⟨fault, rfl, by simp [parse, hempty, hversion]⟩
  | ok v =>
    cases hfind : all.find? (·.version = v) with
    | none =>
      have hnone : ∀ r : Revision, v ≠ r.version := fun r hv =>
        List.find?_eq_none.1 hfind r (mem_all r) (decide_eq_true hv.symm)
      exact Or.inr (Or.inl ⟨v, rfl, hnone, by simp [parse, hempty, hversion, hfind]⟩)
    | some r =>
      obtain rfl : r.version = v := by simpa using List.find?_some hfind
      exact Or.inr (Or.inr ⟨r, rfl, by simp [parse, hempty, hversion, hfind]⟩)

theorem version_inj {a b : Revision} : a.version = b.version ↔ a = b := by
  cases a <;> cases b <;> decide

/-- A text names a revision exactly if it is one of its names with blanks around it. Of the other
texts, those are reported as empty that are blank up to one `v`, those as unsupported that are
completed to a version, of at most 64 bits in each number, and the rest as no version at all. -/
theorem parse_outcome (given : String) :
    (∀ r, parse given = .ok r ↔ ∃ before after name,
      (∀ c ∈ before ++ after, Text.isBlank c = true) ∧ name ∈ r.names ∧
        given.toList = before ++ name ++ after) ∧
    (parse given = .error (.empty given) ↔
      Text.trim given.toList = [] ∨ Text.trim given.toList = ['v']) ∧
    (parse given = .error (.unsupported given) ↔ ∃ v, IsValid v ∧
      complete (bare given.toList) = v.chars ∧ ∀ r : Revision, v ≠ r.version) ∧
    ((∃ fault, parse given = .error (.malformed fault)) ↔ bare given.toList ≠ [] ∧
      ∀ v, IsValid v → complete (bare given.toList) ≠ v.chars) := by
  have hread : ∀ v, IsValid v ∧ complete (bare given.toList) = v.chars ↔
      SemanticVersion.parse (complete (bare given.toList)) = .ok v := fun v =>
    SemanticVersion.parse_eq_ok_iff.symm
  have hunread : (∀ v, IsValid v → complete (bare given.toList) ≠ v.chars) ↔
      ∀ v, SemanticVersion.parse (complete (bare given.toList)) ≠ .ok v := by
    simp only [ne_eq, ← hread, not_and]
  simp only [← parse_complete_eq_ok_iff, ← bare_eq_nil_iff, hunread]
  simp only [← and_assoc, hread]
  rcases parse_cases given with ⟨hcore, hparse⟩ | ⟨hcore, ⟨fault, hversion, hparse⟩ |
    ⟨v, hversion, hnone, hparse⟩ | ⟨r, hversion, hparse⟩⟩
  · have hversion : SemanticVersion.parse (complete []) = .error (.unexpected '.' .major) := rfl
    simp [hcore, hparse, hversion]
  · simp [hcore, hparse, hversion]
  · simp [hcore, hparse, hversion, hnone]
  · simp [hcore, hparse, hversion, version_inj]

/-- The dot in the build metadata is counted, so that the third number is not added. -/
example : parse "1.4+a.b" = .error (.malformed (.trailing '+' .minor)) := by decide +kernel

end Revision

end Metatype
