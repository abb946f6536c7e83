import Metatype.Proofs.FileOrder
import Metatype.Proofs.LoadingOrder

/-!
# Loading a directory

The documents of a directory are loaded one after another in the order of their names. Which types
they have between them decides what the registry holds, and the first one that cannot be added what
goes wrong.

* `Registry.addFile_of_decodes`, `Registry.addFile_of_offence`: what becomes of one file.
* `Registry.addFiles_append`: files that can be added are added, whatever comes after them.
* `Registry.holds_or_firstOffence`: all files can be added, or there is a first one that cannot.
* `Registry.loadDirectory_documents`: the registry of a directory.
-/

namespace Metatype.Registry

variable {r : Registry} {held types : List DeclaredType} {path : String} {bytes : ByteArray}
  {fault : LoadFault}

/-! ## One file -/

/-- The bytes are the text of a document of the types. -/
def Decodes (bytes : ByteArray) (types : List DeclaredType) : Prop :=
  ∃ text, Text.decode? bytes = some text ∧ Document.parse text = .ok types

/-- Why a file cannot be added to some types: it is no text, the text is no document, or the
document has a type whose name is taken, by one of these types or by one before it in the document. -/
inductive Offence (held : List DeclaredType) (path : String) (bytes : ByteArray) : LoadFault → Prop
  | notText (h : Text.decode? bytes = none) : Offence held path bytes (.unreadable .notText)
  | invalid {text : String} {fault : Document.Fault} (h : Text.decode? bytes = some text)
      (hparse : Document.parse text = .error fault) :
      Offence held path bytes (.invalid path fault)
  | duplicate {types before after : List DeclaredType} {t : DeclaredType}
      (h : Decodes bytes types) (hclash : Clash held types before t after) :
      Offence held path bytes (.duplicate t.name)

theorem Clash.of_perm {held held' types before after : List DeclaredType} {t : DeclaredType}
    (h : Clash held types before t after) (hperm : held.Perm held') :
    Clash held' types before t after where
  split := h.split
  fresh := ((hperm.append_right before).map (·.name)).nodup_iff.1 h.fresh
  taken := ((hperm.append_right before).map (·.name)).mem_iff.1 h.taken

theorem Offence.of_perm {held held' : List DeclaredType} (h : Offence held path bytes fault)
    (hperm : held.Perm held') : Offence held' path bytes fault := by
  cases h with
  | notText h => exact .notText h
  | invalid h hparse => exact .invalid h hparse
  | duplicate h hclash => exact .duplicate h (hclash.of_perm hperm)

theorem decodes_or_offence (h : (held.map (·.name)).Nodup) (path : String) (bytes : ByteArray) :
    (∃ types, Decodes bytes types ∧ ((held ++ types).map (·.name)).Nodup) ∨
      ∃ fault, Offence held path bytes fault := by
  cases htext : Text.decode? bytes with
  | none => exact .inr ⟨_, .notText htext⟩
  | some text =>
    cases hparse : Document.parse text with
    | error fault => exact .inr ⟨_, .invalid htext hparse⟩
    | ok types =>
      rcases nodup_or_clash h types with hnodup | ⟨before, t, after, hclash⟩
      · exact .inl ⟨types, ⟨text, htext, hparse⟩, hnodup⟩
      · exact .inr ⟨_, .duplicate ⟨text, htext, hparse⟩ hclash⟩

theorem addFile_of_decodes (h : Decodes bytes types)
    (hnames : ((r.types ++ types).map (·.name)).Nodup) (path : String) :
    ∃ r', r.addFile path (.ok bytes) = .ok r' ∧ r'.types = r.types ++ types := by
  obtain ⟨text, htext, hparse⟩ := h
  obtain ⟨r', hadd, htypes⟩ := addTypes_of_nodup hnames
  refine ⟨r', ?_, htypes⟩
  rw [addFile, textOf, htext]
  dsimp only
  rw [addDocument, hparse]
  dsimp only
  rw [hadd]

theorem addFile_of_offence (h : Offence r.types path bytes fault) :
    r.addFile path (.ok bytes) = .error fault := by
  cases h with
  | notText h => rw [addFile, textOf, h]
  | invalid h hparse =>
    rw [addFile, textOf, h]
    dsimp only
    rw [addDocument, hparse]
  | duplicate h hclash =>
    obtain ⟨text, htext, hparse⟩ := h
    obtain ⟨r', hadd, -⟩ := addTypes_of_clash hclash
    rw [addFile, textOf, htext]
    dsimp only
    rw [addDocument, hparse]
    dsimp only
    rw [hadd]

/-! ## Files -/

/-- Files that are read without a fault. -/
def readable (files : List (String × ByteArray)) :
    List (String × Id (Except FileAccess.Fault ByteArray)) :=
  files.map fun file => (file.1, .ok file.2)

theorem addFiles_cons (r : Registry) (path : String) (bytes : ByteArray)
    (rest : List (String × ByteArray)) :
    r.addFiles (readable ((path, bytes) :: rest)) =
      match r.addFile path (.ok bytes) with
      | .ok r => r.addFiles (readable rest)
      | .error fault => (.error fault : Id (Except LoadFault Registry)) :=
  rfl

/-- The files are documents that have the types between them, in any order. -/
def Holds (files : List (String × ByteArray)) (types : List DeclaredType) : Prop :=
  ∃ chunks, List.Forall₂ (fun file chunk => Decodes file.2 chunk) files chunks ∧
    chunks.flatten.Perm types

theorem Decodes.unique {types' : List DeclaredType} (h : Decodes bytes types)
    (h' : Decodes bytes types') : types = types' := by
  obtain ⟨text, htext, hparse⟩ := h
  obtain ⟨text', htext', hparse'⟩ := h'
  cases htext.symm.trans htext'
  exact Except.ok.inj (hparse.symm.trans hparse')

/-- Only the order of the types is open. -/
theorem Holds.perm {files : List (String × ByteArray)} {types' : List DeclaredType}
    (h : Holds files types) (h' : Holds files types') : types.Perm types' := by
  obtain ⟨chunks, hdecodes, hperm⟩ := h
  obtain ⟨chunks', hdecodes', hperm'⟩ := h'
  have hunique : Relator.RightUnique fun (file : String × ByteArray) chunk =>
      Decodes file.2 chunk := fun _ _ _ => Decodes.unique
  have hchunks : chunks = chunks' := hunique.forall₂ hdecodes hdecodes'
  exact hperm.symm.trans (hchunks ▸ hperm')

/-- What goes wrong at the first of the files that cannot be added to some types. -/
def FirstOffence (held : List DeclaredType) (files : List (String × ByteArray))
    (fault : LoadFault) : Prop :=
  ∃ before file after types, files = before ++ file :: after ∧ Holds before types ∧
    ((held ++ types).map (·.name)).Nodup ∧ Offence (held ++ types) file.1 file.2 fault

variable {files before rest : List (String × ByteArray)}

/-- Files with new types are added, whatever comes after them. -/
theorem addFiles_append (h : Holds before types)
    (hnames : ((r.types ++ types).map (·.name)).Nodup) (rest : List (String × ByteArray)) :
    ∃ r' : Registry, r.addFiles (readable (before ++ rest)) = r'.addFiles (readable rest) ∧
      r'.types.Perm (r.types ++ types) := by
  obtain ⟨chunks, hdecodes, hperm⟩ := h
  replace hnames : ((r.types ++ chunks.flatten).map (·.name)).Nodup :=
    ((hperm.append_left r.types).map (·.name)).nodup_iff.2 hnames
  suffices ∃ r' : Registry, r.addFiles (readable (before ++ rest)) = r'.addFiles (readable rest) ∧
      r'.types = r.types ++ chunks.flatten by
    obtain ⟨r', hadd, htypes⟩ := this
    exact ⟨r', hadd, htypes ▸ hperm.append_left r.types⟩
  clear hperm
  induction hdecodes generalizing r with
  | nil => exact ⟨r, rfl, by simp⟩
  | @cons file chunk before chunks hfile _ ih =>
    rw [List.flatten_cons, ← List.append_assoc] at hnames
    have hfirst : ((r.types ++ chunk).map (·.name)).Nodup :=
      hnames.sublist ((List.sublist_append_left _ _).map _)
    obtain ⟨r₁, hadd, htypes⟩ := addFile_of_decodes hfile hfirst file.1
    rw [← htypes] at hnames
    obtain ⟨r', hrest, htypes'⟩ := ih hnames
    refine ⟨r', ?_, ?_⟩
    · rw [List.cons_append, addFiles_cons, hadd]
      exact hrest
    · rw [htypes', htypes, List.flatten_cons, List.append_assoc]

theorem addFiles_of_holds (h : Holds files types)
    (hnames : ((r.types ++ types).map (·.name)).Nodup) :
    ∃ r', r.addFiles (readable files) = (.ok r' : Except LoadFault Registry) ∧
      r'.types.Perm (r.types ++ types) := by
  obtain ⟨r', hadd, htypes⟩ := addFiles_append h hnames []
  rw [List.append_nil] at hadd
  exact ⟨r', hadd, htypes⟩

theorem addFiles_of_firstOffence (h : FirstOffence r.types files fault) :
    r.addFiles (readable files) = (.error fault : Except LoadFault Registry) := by
  obtain ⟨before, file, after, types, rfl, hbefore, hnames, hoffence⟩ := h
  obtain ⟨r', hadd, htypes⟩ := addFiles_append hbefore hnames (file :: after)
  rw [hadd, addFiles_cons, addFile_of_offence (hoffence.of_perm htypes.symm)]

/-- All files can be added to some types, or there is a first one that cannot. -/
theorem holds_or_firstOffence (h : (held.map (·.name)).Nodup)
    (files : List (String × ByteArray)) :
    (∃ types, Holds files types ∧ ((held ++ types).map (·.name)).Nodup) ∨
      ∃ fault, FirstOffence held files fault := by
  induction files generalizing held with
  | nil => exact .inl ⟨[], ⟨[], .nil, .nil⟩, by simpa using h⟩
  | cons file rest ih =>
    rcases decodes_or_offence h file.1 file.2 with ⟨chunk, hfile, hnames⟩ | ⟨fault, hoffence⟩
    · rcases ih hnames with ⟨types, ⟨chunks, hrest, hperm⟩, hall⟩ |
        ⟨fault, before, file', after, types, rfl, ⟨chunks, hbefore, hperm⟩, hfresh, hoffence⟩
      · rw [List.append_assoc] at hall
        exact .inl ⟨chunk ++ types, ⟨chunk :: chunks, .cons hfile hrest, hperm.append_left chunk⟩,
          hall⟩
      · rw [List.append_assoc] at hfresh hoffence
        exact .inr ⟨fault, file :: before, file', after, chunk ++ types, rfl,
          ⟨chunk :: chunks, .cons hfile hbefore, hperm.append_left chunk⟩, hfresh, hoffence⟩
    · exact .inr ⟨fault, [], file, rest, [], rfl, ⟨[], .nil, .nil⟩, by simpa using h,
        by simpa using hoffence⟩

theorem exists_addFiles_iff :
    (∃ r', r.addFiles (readable files) = (.ok r' : Except LoadFault Registry)) ↔
      ∃ types, Holds files types ∧ ((r.types ++ types).map (·.name)).Nodup := by
  constructor
  · rintro ⟨r', hadd⟩
    rcases holds_or_firstOffence r.nodup files with hholds | ⟨fault, hfault⟩
    · exact hholds
    · rw [addFiles_of_firstOffence hfault] at hadd
      cases hadd
  · rintro ⟨types, hholds, hnames⟩
    obtain ⟨r', hadd, -⟩ := addFiles_of_holds hholds hnames
    exact ⟨r', hadd⟩

theorem types_of_addFiles {r' : Registry}
    (hadd : r.addFiles (readable files) = (.ok r' : Except LoadFault Registry))
    (h : Holds files types) : r'.types.Perm (r.types ++ types) := by
  obtain ⟨types', hholds, hnames⟩ := exists_addFiles_iff.1 ⟨r', hadd⟩
  obtain ⟨r₁, hadd₁, hperm⟩ := addFiles_of_holds hholds hnames
  cases hadd.symm.trans hadd₁
  exact hperm.trans ((hholds.perm h).append_left _)

theorem addFiles_eq_error_iff :
    r.addFiles (readable files) = (.error fault : Except LoadFault Registry) ↔
      FirstOffence r.types files fault := by
  constructor
  · intro hadd
    rcases holds_or_firstOffence r.nodup files with ⟨types, hholds, hnames⟩ | ⟨fault', hfault⟩
    · obtain ⟨r', hadd', -⟩ := addFiles_of_holds hholds hnames
      cases hadd.symm.trans hadd'
    · cases hadd.symm.trans (addFiles_of_firstOffence hfault)
      exact hfault
  · exact addFiles_of_firstOffence

/-! ## Directories -/

theorem loadDirectory_eq (d : Disk) {path : String} {t : FileTree} (h : d.locate path = .ok t) :
    loadDirectory d.access path = empty.addFiles (readable (FileTree.placed path
      (t.files.filter fun file => isDocumentName (Path.below path file.1)))) := by
  have hfiles : d.access.filesBelow path = readable (FileTree.placed path t.files) := by
    rw [← t.filesBelow_eq_placed path]
    change (d.filesBelow path).map _ = _
    rw [Disk.filesBelow, h]
    rfl
  have hload : loadDirectory d.access path =
      empty.addFiles ((d.access.filesBelow path).filter fun file => isDocumentName file.1) := rfl
  rw [hload, hfiles]
  simp only [readable, FileTree.placed, List.filter_map, Function.comp_def]

/-- A directory is loaded if all its documents are documents of types and no name occurs twice among
these, however they are spread over the documents, and then just these types are found. Otherwise
what goes wrong is what goes wrong at the first document that cannot be added. Other files make no
difference. -/
theorem loadDirectory_documents (d : Disk) {path : String} {entries : List (String × FileTree)}
    (hpath : d.locate path = .ok (.directory entries))
    (hnames : (FileTree.directory entries).WellNamed) :
    ∃ files, (FileTree.directory entries).Documents files ∧
      ((∃ r, loadDirectory d.access path = (.ok r : Except LoadFault Registry)) ↔
        ∃ types, Holds (FileTree.placed path files) types ∧ (types.map (·.name)).Nodup) ∧
      (∀ r types, loadDirectory d.access path = (.ok r : Except LoadFault Registry) →
        Holds (FileTree.placed path files) types →
        ∀ name t, r.find? name = some t ↔ t ∈ types ∧ t.name = name) ∧
      ∀ fault, loadDirectory d.access path = (.error fault : Except LoadFault Registry) ↔
        FirstOffence [] (FileTree.placed path files) fault := by
  have hload := loadDirectory_eq d hpath
  refine ⟨_, FileTree.documents_filter hnames path, ?_, ?_, ?_⟩
  · rw [hload]
    exact exists_addFiles_iff
  · intro r types hr hholds name t
    rw [hload] at hr
    have hperm : r.types.Perm types := types_of_addFiles hr hholds
    rw [find?_eq_some_iff, hperm.mem_iff]
  · intro fault
    rw [hload]
    exact addFiles_eq_error_iff

/-- A directory with documents at two depths, and with files that are none. -/
def yard (zones north : ByteArray) : List (String × FileTree) :=
  [("zones.json", .file zones),
    ("sites", .directory [("notes.txt", .file .empty), ("north.json", .file north)]),
    (".json", .file .empty)]

theorem wellNamed_yard (zones north : ByteArray) :
    (FileTree.directory (yard zones north)).WellNamed := by
  have hsites : FileTree.Named [("notes.txt", .file .empty), ("north.json", .file north)] :=
    ⟨by simp, by simp⟩
  have hyard : FileTree.Named (yard zones north) := ⟨by simp [yard], by simp [yard]⟩
  refine hyard.wellNamed ?_
  simp only [yard, List.forall_mem_cons, List.not_mem_nil, false_imp_iff, implies_true, and_true]
  refine ⟨FileTree.wellNamed_file _, hsites.wellNamed ?_, FileTree.wellNamed_file _⟩
  simp [FileTree.wellNamed_file]

theorem documents_yard (zones north : ByteArray) :
    (FileTree.directory (yard zones north)).Documents
      [(["sites", "north.json"], north), (["zones.json"], zones)] := by
  have hfiles : (FileTree.directory (yard zones north)).files =
      [([".json"], .empty), (["sites", "north.json"], north), (["sites", "notes.txt"], .empty),
        (["zones.json"], zones)] := by
    simp [yard, FileTree.files, FileTree.branches, FileTree.under, List.mergeSort,
      List.MergeSort.Internal.splitInTwo]
  have hdocuments := FileTree.documents_filter (wellNamed_yard zones north) "types"
  have hdotted : isDocumentName (Path.below "types" [".json"]) = false := by decide
  have hnorth : isDocumentName (Path.below "types" ["sites", "north.json"]) = true := by decide
  have hnotes : isDocumentName (Path.below "types" ["sites", "notes.txt"]) = false := by decide
  have hzones : isDocumentName (Path.below "types" ["zones.json"]) = true := by decide
  simpa only [hfiles, List.filter, hdotted, hnorth, hnotes, hzones] using hdocuments

theorem holds_yard {zones north : ByteArray} (hzones : Decodes zones [zone])
    (hnorth : Decodes north [depot, site]) {files : List (List String × ByteArray)}
    (h : (FileTree.directory (yard zones north)).Documents files) :
    Holds (FileTree.placed "types" files) [depot, site, zone] := by
  rw [h.unique (documents_yard zones north)]
  exact ⟨[[depot, site], [zone]], .cons hnorth (.cons hzones .nil), .refl _⟩

def yardDisk (zones north : ByteArray) : Disk :=
  { root := .directory [("types", .directory (yard zones north))] }

theorem locate_yardDisk (zones north : ByteArray) :
    (yardDisk zones north).locate "types" = .ok (.directory (yard zones north)) :=
  rfl

def zonesFile : ByteArray := (documentOf [zone]).toUTF8

theorem decodes_zonesFile : Decodes zonesFile [zone] :=
  ⟨_, Text.decode?_toUTF8 _, parse_documentOf [zone] (by simp) (by decide)⟩

def northFile : ByteArray := (documentOf [depot, site]).toUTF8

theorem decodes_northFile : Decodes northFile [depot, site] :=
  ⟨_, Text.decode?_toUTF8 _, parse_documentOf [depot, site] (by simp) (by decide)⟩

theorem loadDirectory_documents_yard :
    (yardDisk zonesFile northFile).locate "types" = .ok (.directory (yard zonesFile northFile)) ∧
      (FileTree.directory (yard zonesFile northFile)).WellNamed ∧
      ∃ r, loadDirectory (yardDisk zonesFile northFile).access "types" =
          (.ok r : Except LoadFault Registry) ∧
        ∀ name t, r.find? name = some t ↔ t ∈ [depot, site, zone] ∧ t.name = name := by
  have hpath := locate_yardDisk zonesFile northFile
  have hnames := wellNamed_yard zonesFile northFile
  obtain ⟨files, hdocuments, hloads, htypes, -⟩ := loadDirectory_documents _ hpath hnames
  have hholds := holds_yard decodes_zonesFile decodes_northFile hdocuments
  obtain ⟨r, hr⟩ := hloads.2 ⟨[depot, site, zone], hholds, by decide⟩
  exact ⟨hpath, hnames, r, hr, htypes r _ hr hholds⟩

end Metatype.Registry
