import Mathlib.Data.List.Basic
import Metatype.Files.Tree
import Metatype.Loading

/-!
# The order of files

A file in a tree is known by the names that lead to it. A walk through the tree comes to all files,
in the order of these names as lists: the files in a directory stand together, where the name of the
directory belongs among the names beside it.

* `FileTree.filesBelow_eq_placed`: the walk, by the names that lead to the files.
* `FileTree.mem_files`: it comes to the files that are there.
* `FileTree.ascending_files`: it comes to them in order, and to none twice.
* `isDocumentName_child`: documents have a name with the ending `.json`.
* `FileTree.documents_filter`: the documents in the order of the walk.
-/

namespace Metatype

/-! ## Names at the end of a path -/

namespace Path

theorem split_append (before after : List Char) :
    split (before ++ '/' :: after) = split before ++ split after := by
  induction before with
  | nil => rfl
  | cons c rest ih =>
    rw [List.cons_append, split, split, ih]
    by_cases hc : c = '/'
    · rw [if_pos hc, if_pos hc, List.cons_append]
    · rw [if_neg hc, if_neg hc]
      cases hsplit : split rest with
      | nil => exact absurd hsplit (split_ne_nil rest)
      | cons part parts => rfl

theorem split_of_no_slash {name : List Char} (h : '/' ∉ name) : split name = [name] := by
  induction name with
  | nil => rfl
  | cons c rest ih =>
    rw [List.mem_cons, not_or] at h
    rw [split, if_neg (Ne.symm h.1), ih h.2]

/-- The path of an entry ends in the name of the entry. -/
theorem fileName_child (directory : String) {name : String} (h : '/' ∉ name.toList) :
    fileName (child directory name) = name := by
  have hends : ∃ before, (child directory name).toList = before ++ '/' :: name.toList := by
    unfold child
    split
    · rename_i hslash
      obtain ⟨before, hbefore⟩ := List.getLast?_eq_some_iff.1 hslash
      exact ⟨before, by simp [hbefore]⟩
    · exact ⟨directory.toList, by simp⟩
  obtain ⟨before, hbefore⟩ := hends
  rw [fileName, parts, hbefore, split_append, split_of_no_slash h, List.map_append,
    List.map_singleton, List.getLastD_concat, String.ofList_toList]

/-- An extension follows the last dot, which is not the first character. -/
theorem extension?_eq_some_iff {path ending : String} (h : '.' ∉ ending.toList) :
    extension? path = some ending ↔
      ∃ stem, stem ≠ "" ∧ fileName path = stem ++ "." ++ ending := by
  have hname (stem : String) : fileName path = stem ++ "." ++ ending ↔
      (fileName path).toList.reverse = ending.toList.reverse ++ '.' :: stem.toList.reverse := by
    rw [← String.toList_inj, ← List.reverse_inj]
    simp
  simp only [hname]
  unfold extension?
  dsimp only
  generalize (fileName path).toList.reverse = name
  constructor
  · intro hfound
    have hsplit := @List.takeWhile_append_dropWhile _ (fun c => decide (c ≠ '.')) name
    split at hfound
    · rename_i c rest hdrop
      have hend : (name.takeWhile (· ≠ '.')).reverse = ending.toList := by
        rw [← Option.some.inj hfound, String.toList_ofList]
      refine ⟨String.ofList (c :: rest).reverse, by simp, ?_⟩
      rw [← hsplit, hdrop, ← hend, List.reverse_reverse, String.toList_ofList,
        List.reverse_reverse]
    · cases hfound
  · rintro ⟨stem, hstem, rfl⟩
    have hending : ∀ c ∈ ending.toList.reverse, decide (c ≠ '.') = true := by
      intro c hc
      have hne : c ≠ '.' := fun hdot => h (hdot ▸ List.mem_reverse.1 hc)
      exact decide_eq_true hne
    rw [List.dropWhile_append_of_pos hending, List.takeWhile_append_of_pos hending]
    cases hrest : stem.toList.reverse with
    | nil => exact absurd (by simpa using hrest) hstem
    | cons c rest => simp

/-- The path of what is some names below a directory. -/
def below (directory : String) (names : List String) : String := names.foldl child directory

end Path

theorem isDocumentName_child (directory : String) {name : String} (h : '/' ∉ name.toList) :
    isDocumentName (Path.child directory name) = true ↔
      ∃ stem, stem ≠ "" ∧ name = stem ++ ".json" := by
  rw [isDocumentName, decide_eq_true_iff, Path.extension?_eq_some_iff (by decide),
    Path.fileName_child directory h]
  simp only [String.append_assoc]
  rfl

namespace FileTree

/-! ## Nodes -/

/-- A property of trees follows from what holds of the entries of a directory. -/
theorem induction {P : FileTree → Prop} (file : ∀ bytes, P (.file bytes))
    (directory : ∀ entries, (∀ e ∈ entries, P e.2) → P (.directory entries)) (t : FileTree) : P t :=
  @FileTree.rec P (fun entries => ∀ e ∈ entries, P e.2) (fun e => P e.2) file directory nofun
    (fun _ _ he hrest => List.forall_mem_cons.2 ⟨he, hrest⟩) (fun _ _ ht => ht) t

/-- The entries of a directory have names of their own, which can be parts of a path. -/
structure Named (entries : List (String × FileTree)) : Prop where
  nodup : (entries.map (·.1)).Nodup
  no_slash : ∀ e ∈ entries, '/' ∉ e.1.toList

/-- The entries of all directories in a tree are named. -/
def WellNamed (t : FileTree) : Prop :=
  ∀ names entries, t.get? names = some (.directory entries) → Named entries

theorem wellNamed_file (bytes : ByteArray) : (file bytes).WellNamed
  | [], _, h => nomatch h
  | _ :: _, _, h => nomatch h

variable {entries : List (String × FileTree)}

theorem Named.lookup_eq_some_iff (h : Named entries) {name : String} {t : FileTree} :
    entries.lookup name = some t ↔ (name, t) ∈ entries := by
  rw [List.lookup_eq_some_iff]
  constructor
  · rintro ⟨before, after, rfl, -⟩
    simp
  · intro hmem
    obtain ⟨before, after, rfl⟩ := List.append_of_mem hmem
    refine ⟨before, after, rfl, fun e he => ?_⟩
    have hne := (List.nodup_append.1 (List.map_append ▸ h.nodup)).2.2 e.1 (List.mem_map_of_mem he)
      name (by simp)
    simpa using Ne.symm hne

theorem WellNamed.named (h : (directory entries).WellNamed) : Named entries := h [] entries rfl

theorem WellNamed.get?_cons (h : (directory entries).WellNamed) {e : String × FileTree}
    (he : e ∈ entries) (names : List String) :
    (directory entries).get? (e.1 :: names) = e.2.get? names := by
  rw [get?, h.named.lookup_eq_some_iff.2 he]
  rfl

theorem WellNamed.entry (h : (directory entries).WellNamed) {e : String × FileTree}
    (he : e ∈ entries) : e.2.WellNamed :=
  fun names below hbelow => h (e.1 :: names) below (by rw [h.get?_cons he, hbelow])

theorem Named.wellNamed (h : Named entries) (hbelow : ∀ e ∈ entries, e.2.WellNamed) :
    (directory entries).WellNamed := by
  intro names below hget
  match names with
  | [] =>
    cases hget
    exact h
  | name :: names =>
    rw [get?, Option.bind_eq_some_iff] at hget
    obtain ⟨t, hlookup, hnode⟩ := hget
    exact hbelow _ (h.lookup_eq_some_iff.1 hlookup) names below hnode

/-- The names on the way to a node can be parts of a path. -/
theorem WellNamed.no_slash {t u : FileTree} (h : t.WellNamed) {names : List String} {name : String}
    (hu : t.get? (names ++ [name]) = some u) : '/' ∉ name.toList := by
  rw [get?_append, Option.bind_eq_some_iff] at hu
  obtain ⟨node, hnode, hbelow⟩ := hu
  match node with
  | .file bytes => cases hbelow
  | .directory entries =>
    have hnamed := h names entries hnode
    rw [get?, Option.bind_eq_some_iff] at hbelow
    obtain ⟨below, hlookup, -⟩ := hbelow
    exact hnamed.no_slash _ (hnamed.lookup_eq_some_iff.1 hlookup)

/-! ## The walk -/

/-- The entries of a directory in the order of their names. -/
def sorted (entries : List (String × FileTree)) : List (String × FileTree) :=
  entries.mergeSort fun a b => a.1 ≤ b.1

theorem mem_sorted {e : String × FileTree} : e ∈ sorted entries ↔ e ∈ entries :=
  (List.mergeSort_perm entries _).mem_iff

theorem ascending_sorted (h : Named entries) : (sorted entries).Pairwise fun a b => a.1 < b.1 := by
  have hle : (sorted entries).Pairwise fun a b => a.1 ≤ b.1 := by
    have hsorted := @List.pairwise_mergeSort _ (fun a b : String × FileTree => decide (a.1 ≤ b.1))
      (fun a b c hab hbc => by
        simpa using String.le_trans (of_decide_eq_true hab) (of_decide_eq_true hbc))
      (fun a b => by simpa using String.le_total a.1 b.1) entries
    simpa only [sorted, decide_eq_true_eq] using hsorted
  have hnodup : ((sorted entries).map (·.1)).Nodup :=
    ((List.mergeSort_perm entries _).map (·.1)).nodup_iff.2 h.nodup
  refine hle.imp₂ (fun a b hab hne => ?_) (List.pairwise_map.1 hnodup)
  exact String.not_le.1 fun hba => hne (String.le_antisymm hab hba)

/-- Whatever comes with the names is put in order with them. -/
theorem mergeSort_map {α : Type} (f : String × FileTree → α) :
    ((entries.map fun e => (e.1, f e)).mergeSort fun a b => a.1 ≤ b.1) =
      (sorted entries).map fun e => (e.1, f e) :=
  (List.map_mergeSort (f := fun e => (e.1, f e)) (s := fun a b => a.1 ≤ b.1)
    fun _ _ _ _ => rfl).symm

theorem filesBelow_directory (path : String) :
    (directory entries).filesBelow path =
      (sorted entries).flatMap fun e => e.2.filesBelow (Path.child path e.1) := by
  have hentries : filesOfEntries path entries =
      entries.map fun e => (e.1, e.2.filesBelow (Path.child path e.1)) := by
    induction entries with
    | nil => rfl
    | cons e rest ih => rw [filesOfEntries, ih, List.map_cons]
  rw [filesBelow, hentries, mergeSort_map, List.flatMap_map]

/-- What is found below an entry, with the name of the entry before the other names. -/
def under (name : String) (file : List String × ByteArray) : List String × ByteArray :=
  (name :: file.1, file.2)

mutual

/-- The files of a tree in the order of the walk, each with the names that lead to it. -/
def files : FileTree → List (List String × ByteArray)
  | .file bytes => [([], bytes)]
  | .directory entries =>
    ((branches entries).mergeSort fun a b => a.1 ≤ b.1).flatMap (·.2)

/-- The files below each entry of a directory, with the name of the entry. -/
def branches : List (String × FileTree) → List (String × List (List String × ByteArray))
  | [] => []
  | (name, t) :: rest => (name, t.files.map (under name)) :: branches rest

end

theorem files_directory :
    (directory entries).files = (sorted entries).flatMap fun e => e.2.files.map (under e.1) := by
  have hbranches : branches entries = entries.map fun e => (e.1, e.2.files.map (under e.1)) := by
    induction entries with
    | nil => rfl
    | cons e rest ih => rw [branches, ih, List.map_cons]
  rw [files, hbranches, mergeSort_map, List.flatMap_map]

/-- Files below a directory with the paths that the names lead to. -/
def placed (path : String) (files : List (List String × ByteArray)) : List (String × ByteArray) :=
  files.map fun file => (Path.below path file.1, file.2)

/-- The walk comes to the files in this order. -/
theorem filesBelow_eq_placed (t : FileTree) (path : String) :
    t.filesBelow path = placed path t.files := by
  induction t using induction generalizing path with
  | file bytes => rfl
  | directory entries ih =>
    rw [filesBelow_directory, files_directory, placed, List.map_flatMap]
    refine List.flatMap_congr fun e he => ?_
    rw [ih e (mem_sorted.1 he), placed, List.map_map]
    rfl

/-- The files of the walk are those that are there. -/
theorem mem_files {t : FileTree} (h : t.WellNamed) {names : List String} {bytes : ByteArray} :
    (names, bytes) ∈ t.files ↔ t.get? names = some (.file bytes) := by
  induction t using induction generalizing names with
  | file content =>
    cases names with
    | nil => simp [files, get?, eq_comm]
    | cons name names => simp [files, get?]
  | directory entries ih =>
    have hbelow : (names, bytes) ∈ (directory entries).files ↔
        ∃ e ∈ entries, ∃ f ∈ e.2.files, under e.1 f = (names, bytes) := by
      simp only [files_directory, List.mem_flatMap, List.mem_map, mem_sorted]
    rw [hbelow]
    constructor
    · rintro ⟨e, he, f, hf, hunder⟩
      cases hunder
      rw [h.get?_cons he]
      exact (ih e he (h.entry he)).1 hf
    · intro hget
      cases names with
      | nil => cases hget
      | cons name names =>
        rw [get?, Option.bind_eq_some_iff] at hget
        obtain ⟨t, hlookup, hfile⟩ := hget
        have he := h.named.lookup_eq_some_iff.1 hlookup
        exact ⟨(name, t), he, (names, bytes), (ih _ he (h.entry he)).2 hfile, rfl⟩

/-- They come in the order of the names that lead to them. -/
theorem ascending_files {t : FileTree} (h : t.WellNamed) :
    t.files.Pairwise fun a b => a.1 < b.1 := by
  induction t using induction with
  | file bytes => exact List.pairwise_singleton _ _
  | directory entries ih =>
    rw [files_directory, List.pairwise_flatMap]
    constructor
    · intro e he
      rw [List.pairwise_map]
      have hbelow := ih e (mem_sorted.1 he) (h.entry (mem_sorted.1 he))
      exact hbelow.imp fun hab => List.cons_lt_cons_iff.2 (.inr ⟨rfl, hab⟩)
    · refine (ascending_sorted h.named).imp fun hab x hx y hy => ?_
      obtain ⟨f, -, rfl⟩ := List.mem_map.1 hx
      obtain ⟨g, -, rfl⟩ := List.mem_map.1 hy
      exact List.cons_lt_cons_iff.2 (.inl hab)

/-! ## Documents -/

/-- The documents of a directory, each with the names that lead to it and in the order of these: the
files whose names have the ending `.json` and more before it. -/
structure Documents (t : FileTree) (files : List (List String × ByteArray)) : Prop where
  mem_iff : ∀ names bytes, (names, bytes) ∈ files ↔
    t.get? names = some (.file bytes) ∧
      ∃ stem, stem ≠ "" ∧ names.getLast? = some (stem ++ ".json")
  ascending : files.Pairwise fun a b => a.1 < b.1

theorem Documents.nodup {t : FileTree} {files : List (List String × ByteArray)}
    (h : t.Documents files) : files.Nodup := by
  refine h.ascending.imp ?_
  rintro a _ hab rfl
  exact List.lt_irrefl a.1 hab

/-- A directory has its documents in one order only. -/
theorem Documents.unique {t : FileTree} {files files' : List (List String × ByteArray)}
    (h : t.Documents files) (h' : t.Documents files') : files = files' := by
  have hperm : files.Perm files' :=
    (List.perm_ext_iff_of_nodup h.nodup h'.nodup).2 fun ⟨names, bytes⟩ => by
      rw [h.mem_iff, h'.mem_iff]
  exact hperm.eq_of_pairwise (fun _ _ _ _ hab hba => (List.lt_asymm hab hba).elim) h.ascending
    h'.ascending

/-- The documents are the files that are taken for such by their paths. -/
theorem documents_filter (h : (directory entries).WellNamed) (path : String) :
    (directory entries).Documents
      ((directory entries).files.filter fun file => isDocumentName (Path.below path file.1)) where
  mem_iff names bytes := by
    rw [List.mem_filter, mem_files h]
    refine and_congr_right fun hfile => ?_
    rcases List.eq_nil_or_concat names with rfl | ⟨names, name, rfl⟩
    · cases hfile
    · rw [List.concat_eq_append] at hfile ⊢
      have hslash := h.no_slash hfile
      rw [Path.below, List.foldl_append, List.foldl_cons, List.foldl_nil,
        isDocumentName_child _ hslash, List.getLast?_concat]
      simp only [Option.some.injEq]
  ascending := (ascending_files h).sublist List.filter_sublist

end FileTree

end Metatype
