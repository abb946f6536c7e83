import Metatype.Files.Tree

/-!
# Writing files

A file that is written is found at its path. Writing puts it in the place of a file or of nothing,
so that all directories stay directories and every way that leads somewhere still leads there.

* `FileTree.HasDirectory`: there is a directory under names.
* `FileTree.hasDirectory_put`: putting a node keeps the directories, unless one stands in its place.
* `Disk.follow_put`: the ways through a disk.
* `Disk.locate_write`: the file that is written.
-/

namespace Metatype

open FileAccess (Fault)

namespace FileTree

theorem lookup_changeEntry_of_ne {name other : String} (h : other ≠ name)
    (change : Option FileTree → FileTree) (entries : List (String × FileTree)) :
    (changeEntry change name entries).lookup other = entries.lookup other := by
  have hne : (other == name) = false := by simpa using h
  induction entries with
  | nil => simp [changeEntry, List.lookup_cons, hne]
  | cons e rest ih =>
    obtain ⟨n, t⟩ := e
    by_cases hn : n = name
    · simp [changeEntry, hn, List.lookup_cons, hne]
    · rw [changeEntry, if_neg hn, List.lookup_cons, List.lookup_cons, ih]

/-- There is a directory under names. -/
def HasDirectory (t : FileTree) (names : List String) : Prop :=
  ∃ entries, t.get? names = some (.directory entries)

/-- There are no directories below a file, nor is it one. -/
theorem not_hasDirectory_file (bytes : ByteArray) (names : List String) :
    ¬(file bytes).HasDirectory names := by
  rintro ⟨entries, h⟩
  cases names <;> cases h

theorem hasDirectory_cons {entries : List (String × FileTree)} {name : String}
    {names : List String} :
    (directory entries).HasDirectory (name :: names) ↔
      ∃ t, entries.lookup name = some t ∧ t.HasDirectory names := by
  unfold HasDirectory
  simp only [get?, Option.bind_eq_some_iff]
  constructor
  · rintro ⟨found, t, ht, h⟩
    exact ⟨t, ht, found, h⟩
  · rintro ⟨t, ht, found, h⟩
    exact ⟨found, t, ht, h⟩

/-- Directories stay where they are if something is put at a place where there is none. -/
theorem hasDirectory_put {t : FileTree} {place names : List String} (new : FileTree)
    (hplace : ¬t.HasDirectory place) (h : t.HasDirectory names) :
    (t.put new place).HasDirectory names := by
  induction place generalizing t names with
  | nil =>
    match t with
    | .file bytes => exact absurd h (not_hasDirectory_file bytes names)
    | .directory entries => exact absurd ⟨entries, rfl⟩ hplace
  | cons name place ih =>
    match t, names with
    | .file bytes, _ => exact absurd h (not_hasDirectory_file bytes _)
    | .directory entries, [] => exact ⟨_, rfl⟩
    | .directory entries, other :: names =>
      obtain ⟨t, ht, hbelow⟩ := hasDirectory_cons.1 h
      rw [put, putBelow, hasDirectory_cons]
      -- of the entries here only the one on the way to the place changes
      by_cases hother : other = name
      · subst hother
        have hmissing : ¬t.HasDirectory place := fun hdirectory =>
          hplace (hasDirectory_cons.2 ⟨t, ht, hdirectory⟩)
        rw [lookup_changeEntry_self, ht]
        exact ⟨_, rfl, ih hmissing hbelow⟩
      · rw [lookup_changeEntry_of_ne hother]
        exact ⟨t, ht, hbelow⟩

end FileTree

namespace Disk

/-! ## Ways that stay -/

theorem step_of_hasDirectory {d : Disk} {names : List String} (h : d.root.HasDirectory names)
    {part : String} (hempty : part ≠ "") (hdot : part ≠ ".") (hdots : part ≠ "..")
    (hlong : Path.isLongName part = false) : d.step names part = .ok (names ++ [part]) := by
  obtain ⟨entries, hentries⟩ := h
  rw [step, hentries]
  simp [hempty, hdot, hdots, hlong]

/-- A step depends on no more than whether it starts in a directory. -/
theorem step_congr {d d' : Disk} {names : List String} {part : String} {found : List String}
    (hdirectory : d.root.HasDirectory names → d'.root.HasDirectory names)
    (h : d.step names part = .ok found) : d'.step names part = .ok found := by
  unfold step at h
  split at h
  · cases h
  · cases h
  · rename_i entries hentries
    obtain ⟨entries', hentries'⟩ := hdirectory ⟨entries, hentries⟩
    rw [step, hentries']
    exact h

/-- A text that can be a path. -/
def IsPath (path : String) : Prop :=
  path.toList.contains '\x00' = false ∧ path.isEmpty = false ∧ Path.isTooLong path = false

/-- Where the ways of a path start. -/
def start (d : Disk) (path : String) : List String := if Path.isAbsolute path then [] else d.here

theorem follow_eq_ok_iff {d : Disk} {path : String} {parts found : List String} :
    d.follow path parts = .ok found ↔
      IsPath path ∧ parts.foldlM d.step (d.start path) = .ok found := by
  unfold follow IsPath
  cases path.toList.contains '\x00' with
  | true => simp
  | false =>
    cases path.isEmpty with
    | true => simp
    | false => cases Path.isTooLong path <;> simp [start]

section

variable {d : Disk} {place : List String} (hplace : ¬d.root.HasDirectory place) (new : FileTree)

include hplace

theorem foldlM_step_put {parts names found : List String}
    (h : parts.foldlM d.step names = .ok found) :
    parts.foldlM { d with root := d.root.put new place }.step names = .ok found := by
  induction parts generalizing names with
  | nil => exact h
  | cons part parts ih =>
    rw [List.foldlM_cons] at h ⊢
    cases hstep : d.step names part with
    | error fault =>
      rw [hstep] at h
      cases h
    | ok next =>
      rw [hstep] at h
      rw [step_congr (FileTree.hasDirectory_put new hplace) hstep]
      exact ih h

/-- A way that leads somewhere still leads there. -/
theorem follow_put {path : String} {parts found : List String}
    (h : d.follow path parts = .ok found) :
    { d with root := d.root.put new place }.follow path parts = .ok found := by
  rw [follow_eq_ok_iff] at h ⊢
  exact ⟨h.1, foldlM_step_put hplace new h.2⟩

end

/-! ## The place of a file -/

theorem follow_append {d : Disk} {path part : String} {before names found : List String}
    (h : d.follow path before = .ok names) (hstep : d.step names part = .ok found) :
    d.follow path (before ++ [part]) = .ok found := by
  rw [follow_eq_ok_iff] at h ⊢
  refine ⟨h.1, ?_⟩
  rw [List.foldlM_append, h.2]
  show [part].foldlM d.step names = .ok found
  rw [List.foldlM_cons, hstep]
  rfl

/-- The place of a file: a name in a directory that the other parts of its path lead to. -/
structure IsPlace (d : Disk) (path : String) (before : List String) (name : String)
    (names : List String) : Prop where
  parts : Path.parts path = before ++ [name]
  follow : d.follow path before = .ok names
  directory : d.root.HasDirectory names
  named : name ≠ "" ∧ name ≠ "." ∧ name ≠ ".." ∧ Path.isLongName name = false
  free : ¬d.root.HasDirectory (names ++ [name])

theorem exists_isPlace {d : Disk} {path : String} {place : List String}
    (h : d.target path = .ok place) :
    ∃ before name names, d.IsPlace path before name names ∧ place = names ++ [name] := by
  unfold target at h
  dsimp only at h
  cases hnamed : (Path.parts path).reverse.dropWhile (· = "") with
  | nil =>
    rw [hnamed] at h
    dsimp only [List.tail_nil, List.reverse_nil, List.head?_nil] at h
    cases hfollow : d.follow path [] with
    | error fault =>
      rw [hfollow] at h
      cases h
    | ok names =>
      rw [hfollow] at h
      cases h
  | cons name before =>
    rw [hnamed] at h
    dsimp only [List.tail_cons, List.head?_cons] at h
    cases hfollow : d.follow path before.reverse with
    | error fault =>
      rw [hfollow] at h
      cases h
    | ok names =>
      rw [hfollow] at h
      dsimp only at h
      split at h
      · cases h
      · cases h
      · rename_i entries hentries
        split at h
        · cases h
        split at h
        · cases h
        split at h
        · cases h
        rename_i hreserved hlong _ hfree
        rw [not_or, not_or, Nat.not_lt] at hreserved
        -- no empty parts are left out at the end, so that the name is the last part
        have hparts : name :: before = (Path.parts path).reverse := by
          have hsuffix := List.dropWhile_suffix (· = "") (l := (Path.parts path).reverse)
          rw [hnamed] at hsuffix
          exact hsuffix.eq_of_length_le (by simpa using hreserved.2.2)
        have hempty : name ≠ "" := by
          have hhead := List.head?_dropWhile_not (· = "") (Path.parts path).reverse
          rw [hnamed] at hhead
          simpa using hhead
        have hplace : ¬d.root.HasDirectory (names ++ [name]) := by
          rintro ⟨found, hfound⟩
          rw [FileTree.get?_append, hentries, Option.bind_some, FileTree.get?] at hfound
          obtain ⟨t, ht, rfl⟩ : ∃ t, entries.lookup name = some t ∧ t = .directory found := by
            simpa [FileTree.get?] using hfound
          exact hfree found ht
        refine ⟨before.reverse, name, names, ⟨?_, hfollow, ⟨entries, hentries⟩, ?_, hplace⟩, ?_⟩
        · rw [← List.reverse_cons, hparts, List.reverse_reverse]
        · exact ⟨hempty, hreserved.1, hreserved.2.1, by simpa using hlong⟩
        · exact (Except.ok.inj h).symm

/-- A file that is written is found at its path. -/
theorem locate_write {d written : Disk} {path : String} {bytes : ByteArray}
    (h : d.write path bytes = .ok written) : written.locate path = .ok (.file bytes) := by
  unfold write at h
  cases htarget : d.target path with
  | error fault =>
    rw [htarget] at h
    cases h
  | ok place =>
    rw [htarget] at h
    obtain rfl := Except.ok.inj h
    obtain ⟨before, name, names, hplace, rfl⟩ := exists_isPlace htarget
    obtain ⟨hempty, hdot, hdots, hlong⟩ := hplace.named
    have hdirectory := FileTree.hasDirectory_put (.file bytes) hplace.free hplace.directory
    have hstep := step_of_hasDirectory
      (d := { d with root := d.root.put (.file bytes) (names ++ [name]) })
      hdirectory hempty hdot hdots hlong
    have hfollow := follow_append (follow_put hplace.free (.file bytes) hplace.follow) hstep
    rw [locate, hplace.parts, hfollow]
    dsimp only
    rw [FileTree.get?_put_self]

end Disk

end Metatype
