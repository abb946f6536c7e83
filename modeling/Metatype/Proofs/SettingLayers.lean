import Mathlib.Data.List.Forall2
import Metatype.Files.Tree
import Metatype.Proofs.LayerMerging
import Metatype.Proofs.SettingFiles

/-!
# Settings from layers

Each setting has the value that the last layer with a value for it gives, or its default if there is
no such layer, whatever the layers have for other settings.

* `Settings.Setting`: a setting with its way, its reading and its default.
* `Settings.exists_ofLayers`: the settings of merged layers.
* `Settings.load_of_stack`: the layers of files and variables.
* `Settings.load_layers`: the settings that are loaded.
-/

namespace Metatype.Settings

open Toml

/-! ## Settings by their ways -/

/-- A setting: the way of keys to it, what can be read as its value, and its default. -/
structure Setting (α : Type) where
  way : List String
  read : Value → Option α
  fallback : α

namespace Setting

variable {α : Type}

def nested : Setting Bool := ⟨["extract", "nested"], Value.truth?, false⟩

def minVersion : Setting String := ⟨["extract", "min_version"], Value.text?, "1.2.0"⟩

def platform : Setting (List String) :=
  ⟨["extract", "platform_packages"], Value.list? Value.text?, ["java."]⟩

def format : Setting OutputFormat := ⟨["output", "format"], OutputFormat.ofToml?, .pretty⟩

def extensions : Setting (List Registration) :=
  ⟨["extensions"], Value.list? Registration.ofToml?, []⟩

/-- What a layer gives for a setting can be read. -/
def IsTyped (x : Setting α) (layer : Layer) : Prop :=
  LayerFits (fun v => (x.read v).isSome = true) x.way layer

instance (x : Setting α) (layer : Layer) : Decidable (x.IsTyped layer) :=
  inferInstanceAs (Decidable (LayerFits (fun v => (x.read v).isSome = true) x.way layer))

/-- The value that is given by the last layer that gives one, or the default. -/
def value? (x : Setting α) (layers : List Layer) : Option α :=
  match lastGiven? x.way layers with
  | some v => x.read v
  | none => some x.fallback

theorem value?_eq (x : Setting α) (layers : List Layer) :
    x.value? layers = defaulted (lastGiven? x.way layers) x.fallback x.read := by
  unfold value? defaulted
  cases lastGiven? x.way layers <;> rfl

theorem exists_value {x : Setting α} {layers : List Layer} (h : ∀ layer ∈ layers, x.IsTyped layer) :
    ∃ value, x.value? layers = some value := by
  unfold value?
  cases hlast : lastGiven? x.way layers with
  | none => exact ⟨x.fallback, rfl⟩
  | some v => exact Option.isSome_iff_exists.1 (of_lastGiven? h hlast)

end Setting

/-- All settings that a layer gives can be read. -/
structure IsTyped (layer : Layer) : Prop where
  nested : Setting.nested.IsTyped layer
  minVersion : Setting.minVersion.IsTyped layer
  platform : Setting.platform.IsTyped layer
  format : Setting.format.IsTyped layer
  extensions : Setting.extensions.IsTyped layer

instance (layer : Layer) : Decidable (IsTyped layer) :=
  decidable_of_iff
    (Setting.nested.IsTyped layer ∧ Setting.minVersion.IsTyped layer ∧
      Setting.platform.IsTyped layer ∧ Setting.format.IsTyped layer ∧
      Setting.extensions.IsTyped layer)
    ⟨fun ⟨hnested, hminVersion, hplatform, hformat, hextensions⟩ =>
      ⟨hnested, hminVersion, hplatform, hformat, hextensions⟩,
      fun h => ⟨h.nested, h.minVersion, h.platform, h.format, h.extensions⟩⟩

/-- All settings have the values that layers give last. -/
structure IsLast (layers : List Layer) (s : Settings) : Prop where
  nested : Setting.nested.value? layers = some s.nested
  minVersion : Setting.minVersion.value? layers = some s.minVersion
  platform : Setting.platform.value? layers = some s.platform
  format : Setting.format.value? layers = some s.format
  extensions : Setting.extensions.value? layers = some s.extensions

instance (layers : List Layer) (s : Settings) : Decidable (IsLast layers s) :=
  decidable_of_iff
    (Setting.nested.value? layers = some s.nested ∧
      Setting.minVersion.value? layers = some s.minVersion ∧
      Setting.platform.value? layers = some s.platform ∧
      Setting.format.value? layers = some s.format ∧
      Setting.extensions.value? layers = some s.extensions)
    ⟨fun ⟨hnested, hminVersion, hplatform, hformat, hextensions⟩ =>
      ⟨hnested, hminVersion, hplatform, hformat, hextensions⟩,
      fun h => ⟨h.nested, h.minVersion, h.platform, h.format, h.extensions⟩⟩

/-- Layers give one value for each setting. -/
theorem IsLast.eq {layers : List Layer} {s s' : Settings} (h : IsLast layers s)
    (h' : IsLast layers s') : s = s' := by
  cases s
  cases s'
  cases h.nested.symm.trans h'.nested
  cases h.minVersion.symm.trans h'.minVersion
  cases h.platform.symm.trans h'.platform
  cases h.format.symm.trans h'.format
  cases h.extensions.symm.trans h'.extensions
  rfl

/-! ## Reading merged layers -/

/-- The entries of a section. -/
def sectionEntries (entries : List (String × Value)) (name : String) : List (String × Value) :=
  ((find? entries name).getD .nothing).entries

/-- A section is missing or a table. -/
def HasSection (entries : List (String × Value)) (name : String) : Prop :=
  find? entries name = none ∨
    find? entries name = some (.table (sectionEntries entries name))

theorem has_root {entries : List (String × Value)} {name : String} {o : Option Value}
    (h : Has [name] (some (.table entries)) o) : find? entries name = o := by
  cases h with
  | entry h =>
    cases h with
    | here => rfl

theorem has_section {entries : List (String × Value)} {name key : String} {o : Option Value}
    (h : Has [name, key] (some (.table entries)) o) :
    HasSection entries name ∧ find? (sectionEntries entries name) key = o := by
  cases h with
  | entry h =>
    unfold HasSection sectionEntries
    generalize find? entries name = found at h
    cases h with
    | missing => exact ⟨.inl rfl, rfl⟩
    | entry h =>
      cases h with
      | here => exact ⟨.inr rfl, rfl⟩

section

variable {entries : List (String × Value)} {s : Settings}

theorem defaulted_extract (h : HasSection entries "extract") {nested : Bool} {minVersion : String}
    {platform : List String}
    (hnested : defaulted (find? (sectionEntries entries "extract") "nested") s.nested
      Value.truth? = some nested)
    (hminVersion : defaulted (find? (sectionEntries entries "extract") "min_version") s.minVersion
      Value.text? = some minVersion)
    (hplatform : defaulted (find? (sectionEntries entries "extract") "platform_packages")
      s.platform (Value.list? Value.text?) = some platform) :
    defaulted (find? entries "extract") s s.extractOfToml? =
      some { s with nested, minVersion, platform } := by
  rcases h with h | h
  · rw [sectionEntries, h] at hnested hminVersion hplatform
    cases hnested
    cases hminVersion
    cases hplatform
    rw [h]
    rfl
  · rw [h]
    simp only [defaulted, extractOfToml?, Value.fields?, Option.bind_eq_bind, Option.bind_some]
    unfold defaulted at hnested hminVersion hplatform
    rw [hnested, hminVersion, hplatform]
    rfl

theorem defaulted_output (h : HasSection entries "output") {format : OutputFormat}
    (hformat : defaulted (find? (sectionEntries entries "output") "format") s.format
      OutputFormat.ofToml? = some format) :
    defaulted (find? entries "output") s s.outputOfToml? = some { s with format } := by
  rcases h with h | h
  · rw [sectionEntries, h] at hformat
    cases hformat
    rw [h]
    rfl
  · rw [h]
    simp only [defaulted, outputOfToml?, Value.fields?, Option.bind_eq_bind, Option.bind_some]
    unfold defaulted at hformat
    rw [hformat]
    rfl

end

namespace Setting

variable {α : Type} (x : Setting α) {name key : String} {layers : List Layer}
  (h : ∀ layer ∈ layers, x.IsTyped layer)

include h

/-- A setting in a section is read from the merged layers. -/
theorem exists_inSection (hway : x.way = [name, key]) :
    HasSection (layers.foldl overlay []) name ∧ ∃ value, x.value? layers = some value ∧
      defaulted (find? (sectionEntries (layers.foldl overlay []) name) key) x.fallback x.read =
        some value := by
  obtain ⟨value, hvalue⟩ := exists_value h
  unfold IsTyped at h
  rw [hway] at h
  obtain ⟨hsection, hfind⟩ := has_section (has_layers h)
  refine ⟨hsection, value, hvalue, ?_⟩
  rw [hfind, ← hway, ← value?_eq, hvalue]

/-- So is one at the root. -/
theorem exists_atRoot (hway : x.way = [name]) :
    ∃ value, x.value? layers = some value ∧
      defaulted (find? (layers.foldl overlay []) name) x.fallback x.read = some value := by
  obtain ⟨value, hvalue⟩ := exists_value h
  unfold IsTyped at h
  rw [hway] at h
  refine ⟨value, hvalue, ?_⟩
  rw [has_root (has_layers h), ← hway, ← value?_eq, hvalue]

end Setting

/-- Layers have settings, each with the value that they give last. -/
theorem exists_ofLayers {layers : List Layer} (h : ∀ layer ∈ layers, IsTyped layer) :
    ∃ s, ofLayers layers = .ok s ∧ IsLast layers s := by
  obtain ⟨hextract, nested, hnested, hnestedRead⟩ :=
    Setting.nested.exists_inSection (fun l hl => (h l hl).nested) rfl
  obtain ⟨-, minVersion, hminVersion, hminVersionRead⟩ :=
    Setting.minVersion.exists_inSection (fun l hl => (h l hl).minVersion) rfl
  obtain ⟨-, platform, hplatform, hplatformRead⟩ :=
    Setting.platform.exists_inSection (fun l hl => (h l hl).platform) rfl
  obtain ⟨houtput, format, hformat, hformatRead⟩ :=
    Setting.format.exists_inSection (fun l hl => (h l hl).format) rfl
  obtain ⟨extensions, hextensions, hextensionsRead⟩ :=
    Setting.extensions.exists_atRoot (fun l hl => (h l hl).extensions) rfl
  have hread : ofToml? (layers.foldl overlay []) =
      some ⟨nested, minVersion, platform, format, extensions⟩ := by
    unfold ofToml?
    rw [defaulted_extract hextract hnestedRead hminVersionRead hplatformRead, Option.bind_eq_bind,
      Option.bind_some, defaulted_output houtput hformatRead, Option.bind_eq_bind,
      Option.bind_some]
    exact congrArg (Option.bind · _) hextensionsRead
  refine ⟨⟨nested, minVersion, platform, format, extensions⟩, ?_, hnested, hminVersion, hplatform,
    hformat, hextensions⟩
  rw [ofLayers, hread]

/-! ## Layers of files -/

/-- There is a file with the layer. -/
def IsPresent (files : FileAccess Id) (formats : Formats) (path : String) (layer : Layer) : Prop :=
  ∃ found format bytes text, Means files formats path found format ∧
    files.read found = .ok bytes ∧ Text.decode? bytes = some text ∧
    formats.read? format text = some layer

/-- There is no file, or none with text. -/
def IsAbsent (files : FileAccess Id) (formats : Formats) (path : String) : Prop :=
  ∀ found format, Means files formats path found format →
    ∀ bytes, files.read found = .ok bytes → Text.decode? bytes = none

/-- The layer of a file that need not be there. Without a file nothing is set. -/
inductive FileLayer (files : FileAccess Id) (formats : Formats) (path : String) : Layer → Prop
  | present {layer : Layer} (h : IsPresent files formats path layer) :
      FileLayer files formats path layer
  | absent (h : IsAbsent files formats path) : FileLayer files formats path []

/-- The layer of the user's own file, if there is something at its path. -/
inductive UserLayers (files : FileAccess Id) (environment : Environment) (host : Host) :
    List Layer → Prop
  | homeless (h : ∀ home, ¬IsHome environment host home) : UserLayers files environment host []
  | missing {path : String} (h : UserPath environment host path)
      (hfile : files.isFile path = false) (hdirectory : files.isDirectory path = false) :
      UserLayers files environment host []
  | there {path : String} {layer : Layer} (h : UserPath environment host path)
      (hthere : files.isFile path = true ∨ files.isDirectory path = true)
      (hlayer : FileLayer files host.formats path layer) :
      UserLayers files environment host [layer]

/-- The layer of the file that is asked for, if one is. -/
inductive AskedLayers (files : FileAccess Id) (formats : Formats) :
    Option String → List Layer → Prop
  | none : AskedLayers files formats none []
  | some {path : String} {layer : Layer} (h : IsPresent files formats path layer) :
      AskedLayers files formats (some path) [layer]

/-- The layers of the standard files, of the user's own file, of the one that is asked for, and of
the environment variables, the last one on top. -/
inductive Stack (files : FileAccess Id) (environment : Environment) (asked : Option String)
    (host : Host) : List Layer → Prop
  | mk {plain hidden below : Layer} {user own : List Layer}
      (hplain : FileLayer files host.formats "metatype.toml" plain)
      (hhidden : FileLayer files host.formats ".metatype.toml" hidden)
      (hbelow : FileLayer files host.formats "config/metatype.toml" below)
      (huser : UserLayers files environment host user)
      (hown : AskedLayers files host.formats asked own) :
      Stack files environment asked host
        ([plain, hidden, below] ++ user ++ own ++ [environmentLayer environment])

variable {files : FileAccess Id} {formats : Formats} {path : String} {layer : Layer}

theorem isAbsent_of_resolve?
    (h : resolve? files formats path = (none : Option (String × FileFormat))) :
    IsAbsent files formats path := by
  intro found format hfound
  rw [← resolve?_eq_some_iff, h] at hfound
  cases hfound

theorem readLayer_of_isPresent (h : IsPresent files formats path layer) (isRequired : Bool) :
    readLayer files formats ⟨path, isRequired⟩ = (.ok layer : Except Fault Layer) := by
  obtain ⟨found, format, bytes, text, hfound, hread, htext, hlayer⟩ := h
  unfold readLayer
  dsimp only [bind, pure]
  rw [resolve?_eq_some_iff.2 hfound]
  dsimp only
  rw [hread]
  dsimp only
  rw [layerOfBytes?, htext, Option.map_some, hlayer]
  rfl

theorem readLayer_of_isAbsent (h : IsAbsent files formats path) :
    readLayer files formats ⟨path, false⟩ = (.ok [] : Except Fault Layer) := by
  unfold readLayer
  dsimp only [bind, pure]
  cases hresolve : resolve? files formats path with
  | none => rfl
  | some resolved =>
    obtain ⟨found, format⟩ := resolved
    dsimp only
    cases hread : files.read found with
    | error fault => rfl
    | ok bytes =>
      dsimp only
      rw [layerOfBytes?, h found format (resolve?_eq_some_iff.1 hresolve) bytes hread]
      rfl

theorem readLayer_of_fileLayer (h : FileLayer files formats path layer) :
    readLayer files formats ⟨path, false⟩ = (.ok layer : Except Fault Layer) := by
  cases h with
  | present h => exact readLayer_of_isPresent h false
  | absent h => exact readLayer_of_isAbsent h

/-- The files have the layers. -/
def Read (files : FileAccess Id) (formats : Formats) : List SettingsFile → List Layer → Prop :=
  List.Forall₂ fun file layer => readLayer files formats file = (.ok layer : Except Fault Layer)

section

variable {environment : Environment} {host : Host}

/-- The user's own file, if there is something at its path. -/
def userFiles (files : FileAccess Id) (environment : Environment) (host : Host) :
    List SettingsFile :=
  match userPath? environment host with
  | none => []
  | some path =>
    if (files.isFile path || files.isDirectory path : Bool) = true then [⟨path, false⟩] else []

theorem sources_eq (files : FileAccess Id) (environment : Environment) (asked : Option String)
    (host : Host) :
    sources files environment asked host =
      standardPaths.map (fun path => ⟨path, false⟩) ++ userFiles files environment host ++
        asked.toList.map fun path => ⟨path, true⟩ := by
  unfold sources userFiles
  cases userPath? environment host <;> rfl

theorem read_user {layers : List Layer} (h : UserLayers files environment host layers) :
    Read files host.formats (userFiles files environment host) layers := by
  unfold userFiles
  cases h with
  | homeless h =>
    rw [userPath?_eq_none_iff.2 h]
    exact .nil
  | missing h hfile hdirectory =>
    rw [userPath?_eq_some_iff.2 h]
    dsimp only
    rw [hfile, hdirectory, if_neg (by decide)]
    exact .nil
  | there h hthere hlayer =>
    rw [userPath?_eq_some_iff.2 h]
    dsimp only
    rw [if_pos (Bool.or_eq_true_iff.2 hthere)]
    exact .cons (readLayer_of_fileLayer hlayer) .nil

theorem read_asked {asked : Option String} {layers : List Layer}
    (h : AskedLayers files formats asked layers) :
    Read files formats (asked.toList.map fun path => ⟨path, true⟩) layers := by
  cases h with
  | none => exact .nil
  | some h => exact .cons (readLayer_of_isPresent h true) .nil

theorem readLayers_of_read {found : List SettingsFile} {layers : List Layer}
    (h : Read files formats found layers) :
    readLayers files formats found = (.ok layers : Except Fault (List Layer)) := by
  induction h with
  | nil => rfl
  | cons hfirst _ ih =>
    unfold readLayers
    dsimp only [bind, pure]
    rw [hfirst]
    dsimp only
    rw [ih]
    rfl

/-- The settings are those of the layers of all files and of the environment variables. -/
theorem load_of_stack {asked : Option String} {layers : List Layer}
    (h : Stack files environment asked host layers) :
    load files environment asked host = (ofLayers layers : Except Fault Settings) := by
  obtain @⟨plain, hidden, below, user, own, hplain, hhidden, hbelow, huser, hown⟩ := h
  have hstandard : Read files host.formats (standardPaths.map fun path => ⟨path, false⟩)
      [plain, hidden, below] :=
    .cons (readLayer_of_fileLayer hplain) <| .cons (readLayer_of_fileLayer hhidden) <|
      .cons (readLayer_of_fileLayer hbelow) .nil
  have hall : Read files host.formats (sources files environment asked host)
      ([plain, hidden, below] ++ user ++ own) := by
    rw [sources_eq]
    exact List.rel_append (List.rel_append hstandard (read_user huser)) (read_asked hown)
  unfold load
  dsimp only [bind, pure]
  rw [readLayers_of_read hall]
  rfl

/-- Settings are loaded from any layers whose values can be read. -/
theorem load_layers {asked : Option String} {layers : List Layer}
    (hlayers : Stack files environment asked host layers)
    (htyped : ∀ layer ∈ layers, IsTyped layer) :
    ∃ s, load files environment asked host = (.ok s : Except Fault Settings) ∧
      IsLast layers s := by
  rw [load_of_stack hlayers]
  exact exists_ofLayers htyped

end

/-- The layer that a text spells. -/
def layerOf (text : String) : Layer := (Toml.Document.parse text).getD []

theorem parse_layerOf {text : String} (h : (Toml.Document.parse text).isSome = true) :
    Toml.Document.parse text = some (layerOf text) := by
  obtain ⟨layer, hlayer⟩ := Option.isSome_iff_exists.1 h
  rw [layerOf, hlayer, Option.getD_some]

def standardText : String := "[extract]\nnested = false\nmin_version = \"1.3.0\"\n"

def userText : String := "[extract]\nmin_version = \"1.4\"\nplatform_packages = [\"javax.\"]\n"

def askedText : String := "[output]\nformat = \"compact\"\n"

def userVariables : Environment :=
  [("HOME", "/home/user"), ("METATYPE__EXTRACT__NESTED", "true")]

/-- A standard file, a file of the user's own, and one that is asked for without its extension. -/
def layeredDisk : Disk :=
  { root := .directory
      [("metatype.toml", .file standardText.toUTF8), ("asked.toml", .file askedText.toUTF8),
        ("home", .directory [("user", .directory [(".config", .directory [("metatype",
          .directory [("metatype.toml", .file userText.toUTF8)])])])])] }

theorem isPresent_of_text {files : FileAccess Id} {path found text : String}
    (hfound : resolve? files {} path = (some (found, .toml) : Option (String × FileFormat)))
    (hread : files.read found = (.ok text.toUTF8 : Except FileAccess.Fault ByteArray))
    (hparse : (Toml.Document.parse text).isSome = true) :
    IsPresent files {} path (layerOf text) :=
  ⟨found, .toml, text.toUTF8, text, resolve?_eq_some_iff.1 hfound, hread, Text.decode?_toUTF8 _,
    parse_layerOf hparse⟩

def layersOfDisk : List Layer :=
  [layerOf standardText, [], [], layerOf userText, layerOf askedText,
    environmentLayer userVariables]

theorem stack_layeredDisk :
    Stack layeredDisk.access userVariables (some "asked") {} layersOfDisk := by
  have hplain : IsPresent layeredDisk.access {} "metatype.toml" (layerOf standardText) :=
    isPresent_of_text rfl rfl (by decide +kernel)
  have hhidden : IsAbsent layeredDisk.access {} ".metatype.toml" := isAbsent_of_resolve? rfl
  have hbelow : IsAbsent layeredDisk.access {} "config/metatype.toml" := isAbsent_of_resolve? rfl
  have hpath : UserPath userVariables {} "/home/user/.config/metatype/metatype.toml" :=
    userPath?_eq_some_iff.1 rfl
  have huser : IsPresent layeredDisk.access {} "/home/user/.config/metatype/metatype.toml"
      (layerOf userText) := isPresent_of_text rfl rfl (by decide +kernel)
  have hasked : IsPresent layeredDisk.access {} "asked" (layerOf askedText) :=
    isPresent_of_text rfl rfl (by decide +kernel)
  exact .mk (.present hplain) (.absent hhidden) (.absent hbelow)
    (.there hpath (.inl rfl) (.present huser)) (.some hasked)

/-- The user's own file overrides what the standard file has for one setting, a variable what it has
for another. -/
theorem load_layers_layeredDisk :
    Stack layeredDisk.access userVariables (some "asked") {} layersOfDisk ∧
      (∀ layer ∈ layersOfDisk, IsTyped layer) ∧
      load layeredDisk.access userVariables (some "asked") {} =
        (.ok { nested := true, minVersion := "1.4", platform := ["javax."], format := .compact } :
          Except Fault Settings) := by
  -- one evaluation for all of it, so that each text is read once
  have hlayers : (∀ layer ∈ layersOfDisk, IsTyped layer) ∧ IsLast layersOfDisk
      { nested := true, minVersion := "1.4", platform := ["javax."], format := .compact } := by
    decide +kernel
  obtain ⟨s, hload, hlast⟩ := load_layers stack_layeredDisk hlayers.1
  exact ⟨stack_layeredDisk, hlayers.1, hlast.eq hlayers.2 ▸ hload⟩

end Metatype.Settings
