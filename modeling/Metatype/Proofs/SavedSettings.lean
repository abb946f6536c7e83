import Mathlib.Data.List.Nodup
import Mathlib.Data.List.TakeWhile
import Metatype.Proofs.FileWriting
import Metatype.Proofs.RecordCoding
import Metatype.Proofs.SettingLayers
import Metatype.Proofs.TomlDocument
import Metatype.Settings.Written

/-!
# Settings that are saved and loaded

The document of settings gives every setting, those with their defaults too, so that a file with it
decides them all: an empty list stays empty, and any text stays as it is.

* `Settings.parse_toToml`: the layer of the document.
* `Settings.IsPlain`: entries with keys that need no further reading.
* `Settings.ofLayers_savedLayer`: the layer decides all settings.
* `Settings.load_save`: the settings that are loaded from the file.
-/

namespace Metatype.Settings

open Toml

/-! ## The layer of a document -/

def extractEntries (s : Settings) : List (String × Value) :=
  [("nested", .boolean s.nested), ("min_version", .string s.minVersion),
    ("platform_packages", .array (s.platform.map .string))]

def outputEntries (s : Settings) : List (String × Value) := [("format", .string s.format.name)]

def extensionEntries (r : Registration) : List (String × Value) :=
  [("marker", .string r.marker), ("namespace", .string r.namespaceUri),
    ("prefix", .string r.namespacePrefix)]

/-- The entries for the sections of the settings. -/
def sectionLayer (s : Settings) : Layer :=
  [("extract", .table s.extractEntries), ("output", .table s.outputEntries)]

/-- The entry for the registered markers. -/
def extensionsEntry (s : Settings) : String × Value :=
  ("extensions", .array (s.extensions.map fun r => .table (extensionEntries r)))

/-- The layer of the document of settings. The registered markers come last, but first if there are
none. -/
def savedLayer (s : Settings) : Layer :=
  if s.extensions.isEmpty then s.extensionsEntry :: s.sectionLayer
  else s.sectionLayer ++ [s.extensionsEntry]

/-! ## Reading the document -/

/-- The statements of both sections. -/
def sectionStatements (s : Settings) : List Statement :=
  .table ["extract"] :: pairStatements s.extractEntries ++
    .table ["output"] :: pairStatements s.outputEntries

theorem spells_extractSection (s : Settings) :
    Spells s.extractSection (.table ["extract"] :: pairStatements s.extractEntries) :=
  (((spells_tableHeader (by decide)).append (spells_boolEntry (by decide) s.nested)).append
    (spells_stringEntry (by decide) s.minVersion)).append
    (spells_stringsEntry (by decide) s.platform)

theorem spells_outputSection (s : Settings) :
    Spells s.outputSection (.table ["output"] :: pairStatements s.outputEntries) :=
  (spells_tableHeader (by decide)).append (spells_stringEntry (by decide) s.format.name)

theorem spells_extensionTable (r : Registration) :
    Spells (extensionTable r)
      (.item ["extensions"] :: pairStatements (extensionEntries r)) :=
  (((spells_itemHeader (by decide)).append (spells_stringEntry (by decide) r.marker)).append
    (spells_stringEntry (by decide) r.namespaceUri)).append
    (spells_stringEntry (by decide) r.namespacePrefix)

theorem spells_sections (s : Settings) :
    Spells (s.extractSection ++ '\n' :: s.outputSection) s.sectionStatements :=
  s.spells_extractSection.append (spells_blank.append s.spells_outputSection)

theorem spells_extensionTables (extensions : List Registration) :
    Spells (extensions.flatMap fun r => '\n' :: extensionTable r)
      (itemStatements "extensions" (extensions.map extensionEntries)) := by
  rw [itemStatements, List.flatMap_map]
  exact Spells.flatMap (fun r => spells_blank.append (spells_extensionTable r)) extensions

/-- The entries for the sections, as they are made by their statements. -/
def sectionOutline (s : Settings) : Outline.Entries :=
  [("extract", .table .header (valueEntries s.extractEntries)),
    ("output", .table .header (valueEntries s.outputEntries))]

theorem foldlM_sectionStatements (s : Settings) {d : Toml.Document}
    (hextract : d.entries.lookup "extract" = none) (houtput : d.entries.lookup "output" = none) :
    s.sectionStatements.foldlM Toml.Document.add? d =
      some ⟨d.entries ++ s.sectionOutline, ["output"]⟩ := by
  have hafter : (d.entries ++ [("extract",
      Outline.table .header (valueEntries s.extractEntries))]).lookup "output" = none := by
    rw [List.lookup_append, houtput]
    rfl
  rw [sectionStatements, List.foldlM_append,
    foldlM_section hextract (by simp [extractEntries]), Option.bind_eq_bind,
    Option.bind_some, foldlM_section hafter (by simp [outputEntries])]
  simp [sectionOutline]

theorem toEntries_sectionOutline (s : Settings) :
    Outline.toEntries s.sectionOutline = s.sectionLayer := by
  simp only [sectionOutline, sectionLayer, Outline.toEntries, Outline.toValue,
    toEntries_valueEntries]

/-- No table of the layer stands for a date or time. -/
theorem settle?_savedLayer (s : Settings) :
    (Value.table s.savedLayer).settle? = some (.table s.savedLayer) := by
  have hstrings (texts : List String) :
      (Value.array (texts.map .string)).settle? = some (.array (texts.map .string)) :=
    settle?_array (List.forall_mem_map.2 fun _ _ => rfl)
  have hextract : (Value.table s.extractEntries).settle? = some (.table s.extractEntries) :=
    settle?_table rfl (by
      simp only [extractEntries, List.forall_mem_cons]
      exact ⟨rfl, rfl, hstrings s.platform, nofun⟩)
  have houtput : (Value.table s.outputEntries).settle? = some (.table s.outputEntries) :=
    settle?_table rfl (by simp [outputEntries, Value.settle?])
  have hextension (r : Registration) :
      (Value.table (extensionEntries r)).settle? = some (.table (extensionEntries r)) :=
    settle?_table rfl (by simp [extensionEntries, Value.settle?])
  have hextensions : s.extensionsEntry.2.settle? = some s.extensionsEntry.2 :=
    settle?_array (List.forall_mem_map.2 fun r _ => hextension r)
  have hsections : ∀ e ∈ s.sectionLayer, e.2.settle? = some e.2 := by
    simp [sectionLayer, hextract, houtput]
  unfold savedLayer
  split
  · exact settle?_table rfl (List.forall_mem_cons.2 ⟨hextensions, hsections⟩)
  · exact settle?_table rfl
      (List.forall_mem_append.2 ⟨hsections, List.forall_mem_singleton.2 hextensions⟩)

/-- The statements of the document of settings. -/
def statementsOf (s : Settings) : List Statement :=
  (if s.extensions.isEmpty then pairStatements [s.extensionsEntry] else []) ++
    (s.sectionStatements ++
      itemStatements "extensions" (s.extensions.map extensionEntries))

theorem spells_toToml (s : Settings) : Spells s.toToml.toList s.statementsOf := by
  have htext : s.toToml.toList =
      (if s.extensions.isEmpty then stringsEntry "extensions" [] ++ ['\n'] else []) ++
        (s.extractSection ++ '\n' :: s.outputSection ++
          s.extensions.flatMap fun r => '\n' :: extensionTable r) := by
    simp [toToml]
  rw [htext, statementsOf]
  refine Spells.append ?_ (s.spells_sections.append (spells_extensionTables s.extensions))
  split
  · rename_i hempty
    rw [extensionsEntry, List.isEmpty_iff.1 hempty]
    exact (spells_stringsEntry (by decide) []).append spells_blank
  · exact spells_nil

theorem exists_foldlM_statementsOf (s : Settings) :
    ∃ d, s.statementsOf.foldlM Toml.Document.add? {} = some d ∧
      Outline.toEntries d.entries = s.savedLayer := by
  unfold statementsOf savedLayer
  cases hextensions : s.extensions with
  | nil =>
    -- the empty list stands before the sections, where the root is still open
    have hfirst : (pairStatements [s.extensionsEntry]).foldlM Toml.Document.add? {} =
        some ⟨valueEntries [s.extensionsEntry], []⟩ :=
      foldlM_pairs surrounds_root [] (by simp)
    refine ⟨⟨valueEntries [s.extensionsEntry] ++ s.sectionOutline, ["output"]⟩, ?_, ?_⟩
    · rw [List.isEmpty_nil, if_pos rfl, List.foldlM_append, hfirst, Option.bind_eq_bind,
        Option.bind_some, List.map_nil, itemStatements, List.flatMap_nil, List.append_nil]
      exact s.foldlM_sectionStatements rfl rfl
    · rw [toEntries_append, toEntries_valueEntries, toEntries_sectionOutline]
      rfl
  | cons r rest =>
    -- the tables of the list open one after another behind the sections
    have hsections := s.foldlM_sectionStatements (d := {}) rfl rfl
    have hkeys : ∀ pairs ∈ (r :: rest).map extensionEntries, (pairs.map (·.1)).Nodup :=
      List.forall_mem_map.2 fun r _ => by simp [extensionEntries]
    have hkey : s.sectionOutline.lookup "extensions" = none := rfl
    obtain ⟨o, hitems, ho⟩ :=
      exists_foldlM_items (d := ⟨s.sectionOutline, ["output"]⟩) hkey hkeys
    refine ⟨⟨s.sectionOutline ++ [("extensions", o)], ["extensions"]⟩, ?_, ?_⟩
    · rw [List.isEmpty_cons, if_neg Bool.false_ne_true, List.nil_append, List.foldlM_append,
        hsections]
      exact hitems
    · rw [toEntries_append, toEntries_sectionOutline, List.isEmpty_cons,
        if_neg Bool.false_ne_true, extensionsEntry, hextensions, Outline.toEntries, ho,
        ← List.map_cons, List.map_map]
      rfl

/-- The document of settings has their layer. -/
theorem parse_toToml (s : Settings) : Toml.Document.parse s.toToml = some s.savedLayer := by
  obtain ⟨d, hfold, hentries⟩ := s.exists_foldlM_statementsOf
  have hmark : s.toToml.toList.head? ≠ some '\ufeff' := by
    rw [toToml, String.toList_ofList]
    split
    · exact nofun
    · exact nofun
  exact Toml.Document.parse_of_spells s.spells_toToml hmark hfold hentries s.settle?_savedLayer

/-! ## Plain keys -/

/-- A key that is written in lower case and is no path to anything else. -/
structure IsPlainKey (key : String) : Prop where
  steps : pathSteps key = [.entry key]
  lower : Text.lowerCase key = key

/-- A character of a path that is no capital. -/
def isPlainChar (c : Char) : Bool := isPathChar c && c.toNat < 128 && !c.isUpper

theorem isPlainKey {key : String} (hempty : key.toList.isEmpty = false)
    (hplain : key.toList.all isPlainChar = true) : IsPlainKey key where
  steps := by
    have hpath : ∀ c ∈ key.toList, isPathChar c = true := fun c hc => by
      have hc := List.all_eq_true.1 hplain c hc
      rw [isPlainChar, Bool.and_eq_true, Bool.and_eq_true] at hc
      exact hc.1.1
    have htake : key.toList.takeWhile isPathChar = key.toList :=
      List.takeWhile_eq_self_iff.2 hpath
    have hdrop : key.toList.dropWhile isPathChar = [] :=
      List.dropWhile_eq_nil_iff.2 hpath
    have hsplit : splitPath key = (key, []) := by
      rw [splitPath, htake, hdrop, steps?]
      simp [hempty]
    rw [pathSteps, hsplit]
  lower := by
    have hlower : ∀ s : List Char, s.all isPlainChar = true → s.flatMap Text.lower = s := by
      intro s hs
      induction s with
      | nil => rfl
      | cons c s ih =>
        simp only [List.all_cons, isPlainChar, Bool.and_eq_true, decide_eq_true_eq,
          Bool.not_eq_true'] at hs
        rw [List.flatMap_cons, Text.lower_eq_of_not_upper_ascii hs.1.1.2 hs.1.2, ih hs.2]
        rfl
    rw [Text.lowerCase, hlower _ hplain, String.ofList_toList]

/-- Plain keys without repeats. -/
structure IsPlain (entries : List (String × Value)) : Prop where
  keys : ∀ e ∈ entries, IsPlainKey e.1
  nodup : (entries.map (·.1)).Nodup

theorem isPlain_of_keys {entries : List (String × Value)} (keys : List String)
    (hkeys : entries.map (·.1) = keys)
    (hplain : keys.all (fun key => !key.toList.isEmpty && key.toList.all isPlainChar) = true)
    (hnodup : keys.Nodup) : IsPlain entries where
  keys e he := by
    have hkey := List.all_eq_true.1 hplain e.1 (hkeys ▸ List.mem_map_of_mem he)
    rw [Bool.and_eq_true, Bool.not_eq_true'] at hkey
    exact isPlainKey hkey.1 hkey.2
  nodup := hkeys ▸ hnodup

section

variable {entries : List (String × Value)} {key : String} {v : Value}
  (hnodup : (entries.map (·.1)).Nodup) (hv : (key, v) ∈ entries)

include hnodup hv

theorem eq_of_mem {e : String × Value} (he : e ∈ entries) (hkey : e.1 = key) : e.2 = v :=
  congrArg Prod.snd (List.inj_on_of_nodup_map hnodup he hv hkey)

/-- Only one entry has the key. -/
theorem flatMap_of_mem {β : Type} (f : Value → List β) :
    (entries.flatMap fun e => if e.1 = key then f e.2 else []) = f v := by
  induction entries with
  | nil => cases hv
  | cons e rest ih =>
    rw [List.map_cons, List.nodup_cons] at hnodup
    rw [List.flatMap_cons]
    rcases List.mem_cons.1 hv with rfl | hrest
    · have hothers : (rest.flatMap fun e => if e.1 = key then f e.2 else []) = [] := by
        refine List.flatMap_eq_nil_iff.2 fun e he => if_neg ?_
        rintro rfl
        exact hnodup.1 (List.mem_map_of_mem (f := (·.1)) he)
      rw [if_pos rfl, hothers, List.append_nil]
    · have hne : e.1 ≠ key := by
        rintro rfl
        exact hnodup.1 (List.mem_map_of_mem (f := (·.1)) hrest)
      rw [if_neg hne, List.nil_append, ih hnodup.2 hrest]

end

namespace IsPlain

variable {entries : List (String × Value)} {key : String} {v : Value}
  (h : IsPlain entries) (hv : (key, v) ∈ entries)

include h hv

theorem along (way : List String) : (Value.table entries).along (key :: way) = v.along way := by
  have hlower : (Value.table entries).along (key :: way) =
      entries.flatMap fun e => if e.1 = key then e.2.along way else [] :=
    List.flatMap_congr fun e he => by rw [(h.keys e he).lower]
  rw [hlower, flatMap_of_mem h.nodup hv]

theorem fits {P : Value → Prop} {way : List String} (hfits : v.Fits P way) :
    (Value.table entries).Fits P (key :: way) := by
  refine ⟨rfl, fun e he hkey => ?_⟩
  rw [(h.keys e he).lower] at hkey
  rw [eq_of_mem h.nodup hv he hkey]
  exact hfits

/-- A layer gives what stands under the key. -/
theorem layerGiven (way : List String) : layerGiven (key :: way) entries = v.along way := by
  have hentries : Toml.layerGiven (key :: way) entries =
      (Value.table entries).along (key :: way) :=
    List.flatMap_congr fun e he => by
      rw [(h.keys e he).steps]
      rfl
  rw [hentries, h.along hv]

theorem layerFits {P : Value → Prop} {way : List String} (hfits : v.Fits P way) :
    LayerFits P (key :: way) entries := by
  intro e he
  rw [(h.keys e he).steps]
  exact (h.fits hv hfits).2 e he

end IsPlain

/-! ## What the layer gives -/

/-- A layer gives a setting a value. -/
structure Setting.Gives {α : Type} (x : Setting α) (layer : Layer) (a : α) : Prop where
  isTyped : x.IsTyped layer
  exists_given : ∃ v, layerGiven x.way layer = [v] ∧ x.read v = some a

namespace Setting

variable {α : Type} {x : Setting α} {layer : Layer} {name key : String} {v : Value} {a : α}

theorem gives_atRoot (hway : x.way = [name]) (hlayer : IsPlain layer) (hv : (name, v) ∈ layer)
    (htable : v.isTable = false) (hread : x.read v = some a) : x.Gives layer a where
  isTyped := by
    unfold IsTyped
    rw [hway]
    have hsome : (x.read v).isSome = true := Option.isSome_iff_exists.2 ⟨a, hread⟩
    exact hlayer.layerFits hv ⟨htable, hsome⟩
  exists_given := ⟨v, by rw [hway, hlayer.layerGiven hv]; rfl, hread⟩

theorem gives_inSection (hway : x.way = [name, key]) (hlayer : IsPlain layer)
    {entries : List (String × Value)} (hsection : (name, .table entries) ∈ layer)
    (hentries : IsPlain entries) (hv : (key, v) ∈ entries) (htable : v.isTable = false)
    (hread : x.read v = some a) : x.Gives layer a where
  isTyped := by
    unfold IsTyped
    rw [hway]
    have hsome : (x.read v).isSome = true := Option.isSome_iff_exists.2 ⟨a, hread⟩
    exact hlayer.layerFits hsection (hentries.fits hv ⟨htable, hsome⟩)
  exists_given :=
    ⟨v, by rw [hway, hlayer.layerGiven hsection, hentries.along hv]; rfl, hread⟩

/-- Above the layer there is nothing but an empty one. -/
theorem Gives.value? (h : x.Gives layer a) (below : List Layer) :
    x.value? (below ++ [layer] ++ [[]]) = some a := by
  obtain ⟨v, hgiven, hread⟩ := h.exists_given
  have hlast : lastGiven? x.way (below ++ [layer] ++ [[]]) = some v := by
    have hempty : layerGiven x.way [] = [] := rfl
    simp [lastGiven?, hempty, hgiven]
  rw [Setting.value?, hlast]
  exact hread

end Setting

theorem mem_savedLayer {s : Settings} {e : String × Value} :
    e ∈ s.savedLayer ↔ e = s.extensionsEntry ∨ e ∈ s.sectionLayer := by
  unfold savedLayer
  split
  · exact List.mem_cons
  · rw [List.mem_append, List.mem_singleton, or_comm]

theorem isPlain_savedLayer (s : Settings) : IsPlain s.savedLayer := by
  unfold savedLayer
  split
  · exact isPlain_of_keys ["extensions", "extract", "output"] rfl (by decide) (by decide)
  · exact isPlain_of_keys ["extract", "output", "extensions"] rfl (by decide) (by decide)

theorem isPlain_extractEntries (s : Settings) : IsPlain s.extractEntries :=
  isPlain_of_keys ["nested", "min_version", "platform_packages"] rfl (by decide)
    (by decide)

theorem isPlain_outputEntries (s : Settings) : IsPlain s.outputEntries :=
  isPlain_of_keys ["format"] rfl (by decide) (by decide)

theorem ofToml?_extensionEntries (r : Registration) :
    Registration.ofToml? (.table (extensionEntries r)) = some r := rfl

section

variable (s : Settings)

theorem extract_mem : ("extract", Value.table s.extractEntries) ∈ s.savedLayer :=
  mem_savedLayer.2 (.inr (by simp [sectionLayer]))

theorem gives_nested : Setting.nested.Gives s.savedLayer s.nested :=
  Setting.gives_inSection rfl s.isPlain_savedLayer s.extract_mem s.isPlain_extractEntries
    (v := .boolean s.nested) (by simp [extractEntries]) rfl rfl

theorem gives_minVersion : Setting.minVersion.Gives s.savedLayer s.minVersion :=
  Setting.gives_inSection rfl s.isPlain_savedLayer s.extract_mem s.isPlain_extractEntries
    (v := .string s.minVersion) (by simp [extractEntries]) rfl rfl

theorem gives_platform : Setting.platform.Gives s.savedLayer s.platform :=
  Setting.gives_inSection rfl s.isPlain_savedLayer s.extract_mem s.isPlain_extractEntries
    (v := .array (s.platform.map .string)) (by simp [extractEntries]) rfl
    (Json.mapM_map_eq_some fun _ _ => rfl)

theorem gives_format : Setting.format.Gives s.savedLayer s.format :=
  Setting.gives_inSection rfl s.isPlain_savedLayer
    (mem_savedLayer.2 (.inr (by simp [sectionLayer]))) s.isPlain_outputEntries
    (v := .string s.format.name) (by simp [outputEntries]) rfl
    (by cases s.format <;> decide)

theorem gives_extensions : Setting.extensions.Gives s.savedLayer s.extensions :=
  Setting.gives_atRoot rfl s.isPlain_savedLayer (mem_savedLayer.2 (.inl rfl)) rfl
    (Json.mapM_map_eq_some fun r _ => ofToml?_extensionEntries r)

end

theorem isTyped_savedLayer (s : Settings) : IsTyped s.savedLayer where
  nested := s.gives_nested.isTyped
  minVersion := s.gives_minVersion.isTyped
  platform := s.gives_platform.isTyped
  format := s.gives_format.isTyped
  extensions := s.gives_extensions.isTyped

/-- The layer decides all settings, whatever is below it. -/
theorem isLast_savedLayer (s : Settings) (below : List Layer) :
    IsLast (below ++ [s.savedLayer] ++ [[]]) s where
  nested := s.gives_nested.value? below
  minVersion := s.gives_minVersion.value? below
  platform := s.gives_platform.value? below
  format := s.gives_format.value? below
  extensions := s.gives_extensions.value? below

theorem ofLayers_savedLayer (s : Settings) {below : List Layer}
    (hbelow : ∀ layer ∈ below, IsTyped layer) :
    ofLayers (below ++ [s.savedLayer] ++ [[]]) = .ok s := by
  have htyped : ∀ layer ∈ below ++ [s.savedLayer] ++ [[]], IsTyped layer := by
    simp only [List.forall_mem_append, List.forall_mem_singleton]
    exact ⟨⟨hbelow, s.isTyped_savedLayer⟩, by decide⟩
  obtain ⟨found, hfound, hlast⟩ := exists_ofLayers htyped
  rw [hfound, hlast.eq (s.isLast_savedLayer below)]

/-! ## The file -/

/-- Settings come from nowhere but the file at a path. There are no variables for settings, and the
other files are missing, or hold the same as this one, which may be one of them itself. -/
structure IsAlone (files : FileAccess Id) (environment : Environment) (host : Host)
    (path : String) : Prop where
  noVariables : environmentLayer environment = []
  others : ∀ other ∈ standardPaths ++ (userPath? environment host).toList,
    IsAbsent files host.formats other ∨
      ∃ found, resolve? files host.formats other = some (found, .toml) ∧
        files.read found = files.read path

section

variable {files : FileAccess Id} {environment : Environment} {host : Host} {path other : String}
  {layer : Layer}

theorem exists_fileLayer {bytes : ByteArray} {text : String} (hread : files.read path = .ok bytes)
    (htext : Text.decode? bytes = some text) (hparse : Toml.Document.parse text = some layer)
    (hlayer : IsTyped layer) {formats : Formats}
    (hother : IsAbsent files formats other ∨
      ∃ found, resolve? files formats other = some (found, .toml) ∧
        files.read found = files.read path) :
    ∃ l, FileLayer files formats other l ∧ IsTyped l := by
  rcases hother with habsent | ⟨found, hfound, hsame⟩
  · exact ⟨[], .absent habsent, by decide⟩
  · have hmeans := resolve?_eq_some_iff.1 hfound
    exact ⟨layer, .present ⟨found, .toml, bytes, text, hmeans, hsame.trans hread, htext, hparse⟩,
      hlayer⟩

theorem exists_user
    (h : ∀ path ∈ (userPath? environment host).toList,
      ∃ l, FileLayer files host.formats path l ∧ IsTyped l) :
    ∃ user, UserLayers files environment host user ∧ ∀ l ∈ user, IsTyped l := by
  cases huser : userPath? environment host with
  | none => exact ⟨[], .homeless (userPath?_eq_none_iff.1 huser), nofun⟩
  | some path =>
    have hpath := userPath?_eq_some_iff.1 huser
    by_cases hthere : files.isFile path = true ∨ files.isDirectory path = true
    · obtain ⟨l, hl, htyped⟩ := h path (by simp [huser])
      exact ⟨[l], .there hpath hthere hl, List.forall_mem_singleton.2 htyped⟩
    · rw [not_or] at hthere
      exact ⟨[], .missing hpath (Bool.eq_false_iff.2 hthere.1) (Bool.eq_false_iff.2 hthere.2),
        nofun⟩

/-- The settings are those of the file if they come from nowhere else. -/
theorem load_of_isAlone (h : IsAlone files environment host path) {s : Settings}
    (hpath : Means files host.formats path path .toml)
    (hread : files.read path = .ok s.toToml.toUTF8) :
    load files environment (some path) host = (.ok s : Except Fault Settings) := by
  have htext := Text.decode?_toUTF8 s.toToml
  have hothers := fun other hother =>
    exists_fileLayer hread htext s.parse_toToml s.isTyped_savedLayer (h.others other hother)
  rw [List.forall_mem_append] at hothers
  obtain ⟨hstandard, huser⟩ := hothers
  simp only [standardPaths, List.forall_mem_cons] at hstandard
  obtain ⟨⟨plain, hplain, hplainTyped⟩, ⟨hidden, hhidden, hhiddenTyped⟩,
    ⟨below, hbelow, hbelowTyped⟩, -⟩ := hstandard
  obtain ⟨user, huser, huserTyped⟩ := exists_user huser
  have hpresent : IsPresent files host.formats path s.savedLayer :=
    ⟨path, .toml, _, _, hpath, hread, htext, s.parse_toToml⟩
  have hstandardTyped : ∀ l ∈ [plain, hidden, below], IsTyped l := by
    simp only [List.forall_mem_cons]
    exact ⟨hplainTyped, hhiddenTyped, hbelowTyped, nofun⟩
  rw [load_of_stack (.mk hplain hhidden hbelow huser (.some hpresent)), h.noVariables]
  exact s.ofLayers_savedLayer (List.forall_mem_append.2 ⟨hstandardTyped, huserTyped⟩)

end

/-- Settings can be saved at any place for a file. If the name of the file ends in `.toml` and settings
come from nowhere else, exactly these settings are loaded from it. -/
theorem load_save (s : Settings) {d : Disk} {path : String} {place : List String}
    (hplace : d.target path = .ok place) (htoml : Path.extension? path = some "toml") :
    ∃ saved, s.save d path = .ok saved ∧
      ∀ environment host, IsAlone saved.access environment host path →
        load saved.access environment (some path) host = (.ok s : Except Fault Settings) := by
  obtain ⟨saved, hsave⟩ : ∃ saved, s.save d path = .ok saved := by
    rw [save, Disk.write, hplace]
    exact ⟨_, rfl⟩
  refine ⟨saved, hsave, fun environment host halone => ?_⟩
  have hlocate : saved.locate path = .ok (.file s.toToml.toUTF8) := Disk.locate_write hsave
  have hread : saved.access.read path = .ok s.toToml.toUTF8 := by
    show saved.read path = _
    rw [Disk.read, hlocate]
  have hfile : saved.access.isFile path = true := by
    rw [Disk.access]
    dsimp only
    rw [hlocate]
  exact load_of_isAlone halone (.exact hfile htoml List.mem_cons_self) hread

/-- No packages and no revision, and a marker in texts with quotes of both kinds, a backslash and a
line break. -/
def quotedSettings : Settings where
  minVersion := ""
  platform := []
  format := .compact
  extensions := [⟨"it's \"quoted\"", "C:\\names\nbelow", ""⟩]

def savedDisk : Disk :=
  { root := .directory [("metatype.toml", .file quotedSettings.toToml.toUTF8)] }

theorem isAlone_savedDisk : IsAlone savedDisk.access [] {} "metatype.toml" where
  noVariables := rfl
  others := by
    have hall : standardPaths ++ (userPath? [] {}).toList =
      ["metatype.toml", ".metatype.toml", "config/metatype.toml"] := rfl
    rw [hall, List.forall_mem_cons, List.forall_mem_cons, List.forall_mem_singleton]
    exact ⟨.inr ⟨"metatype.toml", rfl, rfl⟩, .inl (isAbsent_of_resolve? rfl),
      .inl (isAbsent_of_resolve? rfl)⟩

/-- The file may be one that is read in any case. -/
theorem load_save_quotedSettings :
    quotedSettings.save {} "metatype.toml" = .ok savedDisk ∧
      IsAlone savedDisk.access [] {} "metatype.toml" ∧
      load savedDisk.access [] (some "metatype.toml") {} =
        (.ok quotedSettings : Except Fault Settings) := by
  have hplace : Disk.target {} "metatype.toml" = .ok ["metatype.toml"] := rfl
  obtain ⟨saved, hsave, hload⟩ := load_save quotedSettings hplace (by decide)
  have hsaved : quotedSettings.save {} "metatype.toml" = .ok savedDisk := rfl
  cases hsaved.symm.trans hsave
  exact ⟨hsaved, isAlone_savedDisk, hload [] {} isAlone_savedDisk⟩

end Metatype.Settings
