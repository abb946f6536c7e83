import Metatype.Proofs.DocumentCoding
import Metatype.Proofs.Outcome
import Metatype.Proofs.RunOutput

/-!
# Attributes without a type

An attribute has no type if its return type has no counterpart and no marker sets one. For each such
attribute there is an error of its own that says why. So all attributes have a type if an extraction
reports no error, and if it is printed by a run that ends with status zero.

* `Covers`: problems that account for the missing types of attributes.
* `Reader.covers_memberAttribute`, `Reader.covers_typeAttributes`, `Reader.covers_problems`: those of
  an element, of a type and of an extraction do.
* `untyped_reported`: the attributes without a type, in an extraction and in a run.
-/

namespace Metatype

open Reporting

/-! ## Reasons for missing types -/

/-- An error that may be the reason why an attribute has no type. -/
def Diagnostic.isTypeError (d : Diagnostic) : Bool :=
  d.severity = .error && Reader.mappingCodes.contains d.code

/-- Attributes without a type are no more than the errors that may be the reason for it. -/
def Covers (problems : List Diagnostic) (attributes : List Attribute) : Prop :=
  attributes.countP (·.valueType.isNone) ≤ problems.countP (·.isTypeError)

namespace Covers

variable {α : Type} {l m : List Diagnostic} {a b : List Attribute}

theorem nil (l : List Diagnostic) : Covers l [] := Nat.zero_le _

theorem append (h : Covers l a) (h' : Covers m b) : Covers (l ++ m) (a ++ b) := by
  unfold Covers at *
  rw [List.countP_append, List.countP_append]
  exact Nat.add_le_add h h'

theorem append_left (l : List Diagnostic) (h : Covers m a) : Covers (l ++ m) a :=
  (nil l).append h

theorem append_right (h : Covers l a) (m : List Diagnostic) : Covers (l ++ m) a := by
  have happend := h.append (nil m)
  rwa [List.append_nil] at happend

theorem flatMap {problems : α → List Diagnostic} {attributes : α → List Attribute}
    (items : List α) (h : ∀ item ∈ items, Covers (problems item) (attributes item)) :
    Covers (items.flatMap problems) (items.flatMap attributes) := by
  induction items with
  | nil => exact nil []
  | cons item rest ih =>
    rw [List.flatMap_cons, List.flatMap_cons]
    have hrest := ih fun other hother => h other (List.mem_cons_of_mem _ hother)
    exact (h item List.mem_cons_self).append hrest

/-- Without errors there is no attribute without a type. -/
theorem isSome_valueType (h : Covers l a) (hl : ∀ d ∈ l, d.severity ≠ .error) :
    ∀ x ∈ a, x.valueType.isSome = true := by
  have hnone : l.countP (·.isTypeError) = 0 := by
    rw [List.countP_eq_zero]
    intro d hd herror
    rw [Diagnostic.isTypeError, Bool.and_eq_true, decide_eq_true_eq] at herror
    exact hl d hd herror.1
  rw [Covers, hnone, Nat.le_zero, List.countP_eq_zero] at h
  intro x hx
  rw [← Option.not_isNone, Bool.not_eq_true']
  exact Bool.eq_false_iff.2 (h x hx)

end Covers

namespace Reader

variable (r : Reader)

/-! ## Elements and types -/

/-- Of a mapping without a value type the problem is an error that may be the reason. -/
theorem countP_isTypeError_mapType (owner : String) (m : Method)
    (h : (r.mapped owner m).valueType = none) :
    (added (r.mapType owner m.name m.returnType)).countP (·.isTypeError) = 1 := by
  obtain ⟨herror, hlength⟩ := r.explains_mapType owner m.name m.returnType
  have hall : ∀ d ∈ added (r.mapType owner m.name m.returnType), d.isTypeError = true := by
    intro d hd
    obtain ⟨hseverity, hcode⟩ := herror d hd
    simp [Diagnostic.isTypeError, hseverity, hcode]
  have hnone : (value (r.mapType owner m.name m.returnType)).valueType = none := h
  rw [List.countP_eq_length.2 hall, hlength, hnone]
  rfl

theorem covers_memberAttribute (kind : Kind) (owner : String) (keyPrefix shorthand : Option String)
    (m : Method) :
    Covers (r.elementProblems kind owner m)
      [r.memberAttribute kind owner keyPrefix shorthand m] := by
  have hmapping : Covers (added (r.mapType owner m.name m.returnType))
      [r.memberAttribute kind owner keyPrefix shorthand m] := by
    cases h : (r.mapped owner m).valueType with
    | none =>
      have hlength := List.countP_le_length (p := fun a : Attribute => a.valueType.isNone)
        (l := [r.memberAttribute kind owner keyPrefix shorthand m])
      rw [Covers, r.countP_isTypeError_mapType owner m h]
      exact hlength
    | some v =>
      -- A type that is derived may be replaced by that of the marker, but does not get lost.
      have htyped : (r.memberAttribute kind owner keyPrefix shorthand m).valueType.isNone = false := by
        rw [memberAttribute, h, Option.or_some]
        rfl
      rw [Covers, List.countP_singleton, htyped]
      exact Nat.zero_le _
  rw [elementProblems, List.append_assoc]
  exact hmapping.append_right _

theorem covers_typeAttributes (keyPrefix : Option String) (t : DeclaredType) (isRoot : Bool) :
    Covers (r.visitProblems t isRoot) (r.typeAttributes keyPrefix t) := by
  have hmembers : r.typeAttributes keyPrefix t = t.members.flatMap fun m =>
      if m.isElement then [r.memberAttribute t.kind t.name keyPrefix t.shorthand? m] else [] := by
    rw [flatMap_ite, typeAttributes, List.map_eq_flatMap]
    rfl
  rw [visitProblems, hmembers]
  refine Covers.append_left _ (Covers.append_left _ (Covers.flatMap _ ?_))
  intro m _
  unfold memberProblems Method.isElement
  cases m.isConstructor with
  | true => exact Covers.nil _
  | false =>
    cases m.parameters.isEmpty with
    | true => exact r.covers_memberAttribute t.kind t.name keyPrefix t.shorthand? m
    | false => exact Covers.nil _

/-! ## Extractions -/

theorem covers_stepProblems (rootName : String) (keyPrefix : Option String)
    (steps : List Ancestry.Step) :
    Covers (steps.flatMap (r.stepProblems rootName))
      (r.visitAttributes
        (Visit.along rootName keyPrefix (steps.filterMap Ancestry.Step.visited?))) := by
  induction steps generalizing keyPrefix with
  | nil => exact Covers.nil _
  | cons s rest ih =>
    rw [List.flatMap_cons]
    cases s with
    | visit t => exact (r.covers_typeAttributes _ t _).append (ih _)
    | unknown name owner => exact (ih keyPrefix).append_left _
    | failed name owner f => exact (ih keyPrefix).append_left _

theorem covers_problems {root : DeclaredType} {o : ObjectClass} (h : r.outcome root = some o) :
    Covers (r.problems root) o.attributes := by
  have hmarker : root.objectClassMarker?.isSome = true := by
    rw [← r.isSome_outcome, h]
    rfl
  have hroot : decide (root.name = root.name) = true := decide_eq_true rfl
  rw [problems, if_pos hmarker, r.attributes_of_outcome h, visits, lineage_eq, Visit.along, hroot,
    visitAttributes, List.flatMap_cons]
  exact (r.covers_typeAttributes _ root true).append (r.covers_stepProblems root.name _ _)

theorem covers_extract {name : String} {o : ObjectClass}
    (h : (r.extract name).objectClass = some o) :
    Covers (r.extract name).report.items o.attributes := by
  cases hf : r.source.lookup name with
  | found root =>
    rw [r.extract_of_found hf] at h ⊢
    exact r.covers_problems h
  | unknown =>
    rw [extract, readType, hf] at h
    cases h
  | failed f =>
    rw [extract, readType, hf] at h
    cases h

end Reader

/-! ## Runs of the program -/

/-- A path that is no directory is loaded as one file. -/
theorem Registry.load_of_file (files : FileAccess Id) {path : String}
    (h : files.isDirectory path = false) :
    Registry.load files path = empty.addFile path (files.read path) := by
  have hload : Registry.load files path = (do
      if ← files.isDirectory path then loadDirectory files path else loadFile files path : Id _) :=
    rfl
  have hfile : loadFile files path = empty.addFile path (files.read path) := by
    unfold loadFile addFiles
    dsimp only [bind]
    cases empty.addFile path (files.read path) <;> rfl
  rw [hload, h]
  exact hfile

/-- A file is added if its text is a document of types that can be added. -/
theorem Registry.addFile_of_addDocument {r r' : Registry} {text : String} {n : Nat}
    (h : r.addDocument text = (r', .ok n)) (path : String) :
    r.addFile path (.ok text.toUTF8) = .ok r' := by
  rw [addFile, textOf, Text.decode?_toUTF8]
  dsimp only
  rw [h]

theorem Invocation.extract_of_floor {i : Invocation} {s : Settings} {floor : Revision}
    (h : i.floor s = .ok floor) (r : Registry) :
    i.extract s r = .finished i (i.format s) ((i.reader s r floor).extract i.root) := by
  rw [extract, h]

/-! ## No type goes missing without a word -/

/-- In an extraction the attributes without a type are no more than the errors that may be the reason
for it; if no error is reported, all attributes have a type. A run that ends with status zero has
printed the help that an argument asks for, or an object class all of whose attributes have a
type. -/
theorem untyped_reported :
    (∀ (r : Reader) (root : DeclaredType) (before after : Report) (o : ObjectClass),
        (r.read root).run before = (some o, after) →
          ∃ added, after.items = before.items ++ added ∧
            o.attributes.countP (·.valueType.isNone) ≤
              added.countP (·.isTypeError) ∧
            ((∀ d ∈ added, d.severity ≠ .error) →
              ∀ a ∈ o.attributes, a.valueType.isSome = true)) ∧
      ∀ (d : Disk) (environment : Environment) (arguments : List String) (host : Settings.Host),
        (d.run environment arguments host).2.status = 0 →
          ((∃ argument ∈ arguments, Invocation.AsksForHelp argument) ∧
            d.run environment arguments host =
              (d, { status := 0, standardOutput := Invocation.helpText })) ∨
          ∃ e o, d.Prints environment arguments host e ∧ e.objectClass = some o ∧
            ∀ a ∈ o.attributes, a.valueType.isSome = true := by
  constructor
  · intro r root before after o hread
    obtain ⟨ho, hafter⟩ := r.outcome_of_run_read hread
    have hcovers := r.covers_problems ho
    exact ⟨r.problems root, hafter, hcovers, hcovers.isSome_valueType⟩
  · intro d environment arguments host hstatus
    rcases Disk.help_or_prints_of_status hstatus with
      hhelp | ⟨r, name, hprints, herrors, hfound⟩
    · exact .inl ⟨Invocation.exists_asksForHelp hhelp, Disk.run_of_help hhelp⟩
    · obtain ⟨o, ho⟩ := Option.isSome_iff_exists.1 hfound
      refine .inr ⟨_, o, hprints, ho, (r.covers_extract ho).isSome_valueType ?_⟩
      intro p hp hseverity
      have hmem : p ∈ (r.extract name).report.errors :=
        List.mem_filter.2 ⟨hp, decide_eq_true hseverity⟩
      rw [Report.hasErrors, Bool.not_eq_false', List.isEmpty_iff] at herrors
      rw [herrors] at hmem
      cases hmem

/-- A run that is asked for help ends with status zero, but what it has printed is no extraction. -/
theorem not_prints_help :
    (Disk.run {} [] ["--help"]).2 =
        { status := 0
          standardOutput :=
            "Extract a metatype object class definition from type descriptors\n\n" ++
            "Usage: metatype-extract [OPTIONS] --types <TYPES> --root <ROOT>\n\n" ++
            "Options:\n" ++
            "  -t, --types <TYPES>              Descriptor file or directory of *.json descriptors\n" ++
            "  -r, --root <ROOT>                Fully qualified name of the root type\n" ++
            "      --nested                     Accept interface-typed members\n" ++
            "      --min-version <MIN_VERSION>  Lowest version the output declares (1.2, 1.3, 1.4)\n" ++
            "  -c, --config <CONFIG>            Config file\n" ++
            "  -o, --output <OUTPUT>            Output file (JSON), stdout when absent\n" ++
            "      --compact                    Compact JSON\n" ++
            "  -h, --help                       Print help\n" } ∧
      Json.Value.parse (Disk.run {} [] ["--help"]).2.standardOutput = none ∧
      ¬∃ e o, Disk.Prints {} [] ["--help"] {} e ∧ e.objectClass = some o ∧
        ∀ a ∈ o.attributes, a.valueType.isSome = true := by
  have hhelp : Invocation.ofArguments? ["--help"] = some .help :=
    Invocation.ofArguments?_of_asksForHelp (by decide) []
  refine ⟨?_, ?_, ?_⟩
  · rw [Disk.run_of_help hhelp]
    decide +kernel
  · rw [Disk.run_of_help hhelp]
    exact Invocation.parse_helpText
  · rintro ⟨e, o, ⟨i, format, text, hplan, -, -⟩, -, -⟩
    rw [Plan.make_of_help hhelp] at hplan
    cases hplan

/-- An interface with a member whose type is an interface, and a member that is a number. -/
def door : DeclaredType :=
  { name := "com.acme.Door", kind := .interfaceType, markers := [.objectClass {}]
    methods := [
      { name := "lock", returnType := "com.acme.Lock" }, { name := "width", returnType := "int" }] }

def lock : DeclaredType := { name := "com.acme.Lock", kind := .interfaceType }

def doorReader : Reader :=
  { source := Registry.source { types := [door, lock], nodup := by decide } }

/-- An interface whose only member is a number. -/
def gate : DeclaredType :=
  { name := "Gate", kind := .interfaceType, markers := [.objectClass {}]
    methods := [{ name := "width", returnType := "int" }] }

def gateRegistry : Registry := { types := [gate], nodup := by decide }

def gateText : String :=
  "\x7b\"name\":\"Gate\",\"kind\":\"interface\",\"markers\":[\x7b\"kind\":\"object_class\"\x7d]," ++
    "\"methods\":[\x7b\"name\":\"width\",\"return_type\":\"int\"\x7d]\x7d"

/-- The value that the text spells. -/
def gateValue : Json.Value :=
  .object [("name", .string "Gate"), ("kind", .string "interface"),
    ("markers", .array [.object [("kind", .string "object_class")]]),
    ("methods", .array [.object [("name", .string "width"), ("return_type", .string "int")]])]

def gateDisk : Disk := { root := .directory [("gate", .file gateText.toUTF8)] }

def gateInvocation : Invocation := { types := "gate", root := "Gate" }

def gateArguments : List String := ["-t", "gate", "-r", "Gate"]

def gateReader : Reader := gateInvocation.reader {} gateRegistry .v1_2

theorem load_gateDisk :
    Registry.load gateDisk.access "gate" = (.ok gateRegistry : Except LoadFault Registry) := by
  have hread : gateDisk.access.read "gate" = .ok gateText.toUTF8 := rfl
  have hspells : gateValue.Spells gateText := by
    have htext : gateText = gateValue.compact := by decide +kernel
    rw [htext]
    exact gateValue.spells_compact
  have hparse : Document.parse gateText = .ok [gate] :=
    Document.parse_of_spells (by simp [gateValue]) hspells (by decide) rfl
  have hadd : Registry.empty.addDocument gateText = (gateRegistry, .ok 1) := by
    rw [Registry.addDocument, hparse]
    rfl
  rw [Registry.load_of_file _ rfl, hread]
  exact Registry.addFile_of_addDocument hadd "gate"

theorem make_gateDisk :
    Plan.make gateDisk.access [] gateArguments {} =
      .finished gateInvocation .pretty (gateReader.extract "Gate") := by
  have hinvocation : Invocation.ofArguments? gateArguments = some (.extraction gateInvocation) := by
    decide
  have hsettings : Settings.load gateDisk.access [] gateInvocation.config {} =
      (.ok {} : Except Settings.Fault Settings) := rfl
  have hfloor : gateInvocation.floor {} = .ok .v1_2 := rfl
  rw [Plan.make_of_load hinvocation hsettings load_gateDisk]
  exact Invocation.extract_of_floor hfloor gateRegistry

theorem extract_gateReader :
    gateReader.extract "Gate" = { objectClass := gateReader.outcome gate, report := ⟨[]⟩ } := by
  have hfound : gateReader.source.lookup "Gate" = .found gate := rfl
  have hsteps : gateReader.stepsAbove gate = [] := by
    rw [Reader.stepsAbove, gate, Ancestry.follow_nil]
  have hproblems : gateReader.problems gate = [] := by
    rw [Reader.problems, hsteps]
    decide
  rw [gateReader.extract_of_found hfound, hproblems]

/-- Of the members of the first interface one has no type, and there is an error for it. A run on a
file with the second interface ends with status zero. -/
theorem untyped_reported_door :
    (∃ o after, (doorReader.read door).run {} = (some o, after) ∧
        o.attributes.map (·.valueType) = [none, some .integer] ∧
        0 < after.items.countP (·.isTypeError)) ∧
      (gateDisk.run [] gateArguments {}).2.status = 0 ∧
      ∃ e o, gateDisk.Prints [] gateArguments {} e ∧ e.objectClass = some o ∧
        ∀ a ∈ o.attributes, a.valueType.isSome = true := by
  obtain ⟨hreads, hruns⟩ := untyped_reported
  constructor
  · obtain ⟨o, after, hread⟩ := doorReader.exists_run_read door rfl {}
    have hlineage : doorReader.lineage door = [door] := by
      rw [Reader.lineage_eq, Reader.stepsAbove, door, Ancestry.follow_nil]
      rfl
    have hattributes : o.attributes.map (·.valueType) = [none, some .integer] := by
      have houtcome := (doorReader.outcome_of_run_read hread).1
      rw [doorReader.attributes_of_outcome houtcome, Reader.visits, hlineage]
      decide
    obtain ⟨added, hafter, hcount, -⟩ := hreads doorReader door {} after o hread
    have hitems : after.items = added := by simpa using hafter
    have huntyped : o.attributes.countP (·.valueType.isNone) =
        (o.attributes.map (·.valueType)).countP (·.isNone) := by
      rw [List.countP_map]
      rfl
    rw [huntyped, hattributes, ← hitems] at hcount
    exact ⟨o, after, hread, hattributes, hcount⟩
  · have hfound : (gateReader.outcome gate).isSome = true := gateReader.isSome_outcome gate
    have hstatus : (gateDisk.run [] gateArguments {}).2.status = 0 := by
      have herrors : ¬(⟨[]⟩ : Report).hasErrors = true := by decide
      rw [Disk.run_of_none make_gateDisk rfl, extract_gateReader, Plan.report, if_neg herrors,
        Extraction.isFound, if_pos hfound]
    have hunasked : ∀ argument ∈ gateArguments, ¬Invocation.AsksForHelp argument := by decide
    refine ⟨hstatus, (hruns gateDisk [] gateArguments {} hstatus).resolve_left ?_⟩
    rintro ⟨⟨argument, hargument, hasks⟩, -⟩
    exact hunasked argument hargument hasks

end Metatype
