import Metatype.CommandLine.Run
import Metatype.Proofs.FileWriting
import Metatype.Proofs.SchemaCoding

/-!
# What a run has printed

What a run writes is told from what is there afterwards: a text on the standard output, or the
bytes of the file that was to be written. The extraction is read back from it. Only a run that is
asked for help ends with status zero and has printed none.

* `Extraction.bind_parse`: an extraction is read back from its texts.
* `Plan.make_cases`: what a run may come to.
* `Disk.Prints`: a run has printed an extraction.
* `Disk.run_of_help`: a run that gives help.
* `Disk.help_or_prints_of_status`: a run with status zero gives help, or has printed an extraction
  without errors.
-/

namespace Metatype

open Json

/-! ## Extractions that are read back -/

namespace Extraction

/-- The extraction that a JSON value stands for. -/
def ofJson? (v : Value) : Option Extraction := do
  let given ← v.record? ["ocd", "diagnostics"]
  let objectClass ← optional (given "ocd") ObjectClass.ofJson?
  let report ← mandatory (given "diagnostics") Report.ofJson?
  return { objectClass, report }

theorem ofJson?_toJson (e : Extraction) : ofJson? e.toJson = some e := by
  have hobjectClass : optional (some (orNull ObjectClass.toJson e.objectClass))
      ObjectClass.ofJson? = some e.objectClass :=
    optional_orNull fun o _ => ⟨o.ofJson?_toJson, nofun⟩
  rw [ofJson?, toJson, record?_object (by simp)]
  simp [List.lookup_cons, mandatory, hobjectClass, e.report.ofJson?_toJson]

theorem within_toJson (e : Extraction) : e.toJson.Within 7 := by
  have hobjectClass : (orNull ObjectClass.toJson e.objectClass).Within 6 :=
    within_orNull (fun o => o.within_toJson) e.objectClass
  exact within_object (by simp) (by simp [hobjectClass, e.report.within_toJson.mono])

theorem bind_parse (e : Extraction) {text : String} (h : e.toJson.Spells text) :
    (Value.parse text).bind ofJson? = some e := by
  rw [parse_of_within e.within_toJson (by decide) h, Option.bind_some, e.ofJson?_toJson]

end Extraction

/-- A line break at the end does not count. -/
theorem Json.Value.Spells.line {v : Value} {text : String} (h : v.Spells text) :
    v.Spells (text ++ "\n") := by
  have hblank : Blanks ['\n'] := blanks_newline 0
  rw [Spells, String.toList_append]
  exact h.append hblank

/-- The help stands for no value. -/
theorem Invocation.parse_helpText : Value.parse helpText = none := by
  obtain ⟨rest, hrest⟩ : ∃ rest, about.toList = 'E' :: rest := ⟨_, rfl⟩
  rw [Value.parse, Value.parsePrefix, helpText, String.toList_append, hrest, List.cons_append]
  rfl

/-! ## Plans -/

namespace Plan

variable {i : Invocation} {format : OutputFormat} {e : Extraction}

theorem spells_textOf (format : OutputFormat) (e : Extraction) :
    e.toJson.Spells (textOf format e) := by
  cases format with
  | pretty => exact e.toJson.spells_pretty
  | compact => exact e.toJson.spells_compact

theorem report_of_status {output : String} (h : (report i output e).status = 0) :
    e.report.hasErrors = false ∧ e.isFound = true ∧
      (report i output e).standardOutput = output := by
  unfold report at h ⊢
  cases herrors : e.report.hasErrors with
  | true =>
    rw [herrors] at h
    cases h
  | false =>
    cases hfound : e.isFound with
    | true => exact ⟨rfl, rfl, rfl⟩
    | false =>
      rw [herrors, hfound] at h
      cases h

variable {files : FileAccess Id} {environment : Environment} {arguments : List String}
  {host : Settings.Host}

/-- The reading of a run on files that are at hand. -/
theorem make_eq (files : FileAccess Id) (environment : Environment) (arguments : List String)
    (host : Settings.Host) :
    Plan.make files environment arguments host =
      match Invocation.ofArguments? arguments with
      | none => .misused
      | some .help => .help
      | some (.extraction i) =>
        match Settings.load files environment i.config host with
        | .error fault => .failed ["loading configuration", fault.message]
        | .ok s =>
          match Registry.load files i.types with
          | .error fault => .failed (("loading descriptors from " ++ i.types) :: fault.messages)
          | .ok r => i.extract s r := rfl

theorem make_of_load {s : Settings} {r : Registry}
    (hinvocation : Invocation.ofArguments? arguments = some (.extraction i))
    (hsettings : Settings.load files environment i.config host =
      (.ok s : Except Settings.Fault Settings))
    (hregistry : Registry.load files i.types = (.ok r : Except LoadFault Registry)) :
    Plan.make files environment arguments host = i.extract s r := by
  rw [make_eq, hinvocation]
  dsimp only
  rw [hsettings]
  dsimp only
  rw [hregistry]

theorem make_of_help (h : Invocation.ofArguments? arguments = some .help) :
    Plan.make files environment arguments host = .help := by
  rw [make_eq, h]

/-- All that a plan can be. -/
theorem make_cases (files : FileAccess Id) (environment : Environment) (arguments : List String)
    (host : Settings.Host) :
    Plan.make files environment arguments host = .misused ∨
      Invocation.ofArguments? arguments = some .help ∨
      (∃ messages, Plan.make files environment arguments host = .failed messages) ∨
      ∃ (i : Invocation) (format : OutputFormat) (r : Reader),
        Plan.make files environment arguments host = .finished i format (r.extract i.root) := by
  rw [make_eq]
  cases Invocation.ofArguments? arguments with
  | none => exact .inl rfl
  | some request =>
    cases request with
    | help => exact .inr (.inl rfl)
    | extraction i =>
      refine .inr (.inr ?_)
      dsimp only
      cases Settings.load files environment i.config host with
      | error fault => exact .inl ⟨_, rfl⟩
      | ok s =>
        dsimp only
        cases Registry.load files i.types with
        | error fault => exact .inl ⟨_, rfl⟩
        | ok r =>
          dsimp only
          unfold Invocation.extract
          cases i.floor s with
          | error fault => exact .inl ⟨_, rfl⟩
          | ok floor => exact .inr ⟨i, i.format s, i.reader s r floor, rfl⟩

end Plan

/-! ## Runs -/

namespace Disk

variable {d : Disk} {environment : Environment} {arguments : List String} {host : Settings.Host}

/-- The text that a run has written: on the standard output, or in the file that it was asked to
write. -/
def Wrote (i : Invocation) (after : Disk × Outcome) (text : String) : Prop :=
  match i.output with
  | none => after.2.standardOutput = text
  | some path => after.1.read path = .ok text.toUTF8

/-- A run has printed the extraction that it was to make: the text that it has written stands for
that extraction. -/
def Prints (d : Disk) (environment : Environment) (arguments : List String) (host : Settings.Host)
    (e : Extraction) : Prop :=
  ∃ i format text, Plan.make d.access environment arguments host = .finished i format e ∧
    Wrote i (d.run environment arguments host) text ∧
    (Value.parse text).bind Extraction.ofJson? = some e

/-- A run that is asked for help gives it and leaves all files as they are. -/
theorem run_of_help (h : Invocation.ofArguments? arguments = some .help) :
    d.run environment arguments host =
      (d, { status := 0, standardOutput := Invocation.helpText }) := by
  rw [run, Plan.make_of_help h]
  rfl

variable {i : Invocation} {format : OutputFormat} {e : Extraction}

theorem run_of_none (hplan : Plan.make d.access environment arguments host = .finished i format e)
    (h : i.output = none) :
    d.run environment arguments host = (d, Plan.report i (Plan.textOf format e ++ "\n") e) := by
  rw [run, hplan]
  simp only [carryOut, Plan.file?, Plan.conclude, h, Option.map_none]

theorem run_of_some (hplan : Plan.make d.access environment arguments host = .finished i format e)
    {path : String} (h : i.output = some path) :
    d.run environment arguments host =
      match d.write path (Plan.textOf format e).toUTF8 with
      | .ok d' => (d', Plan.report i "" e)
      | .error fault => (d, Plan.failure ["writing " ++ path, fault.message]) := by
  rw [run, hplan]
  simp only [carryOut, Plan.file?, h, Option.map_some]
  cases d.write path (Plan.textOf format e).toUTF8 with
  | ok d' => simp only [Plan.conclude, h]
  | error fault => simp only [Plan.conclude, h]

/-- A file that is written is read as it was written. -/
theorem read_of_write {written : Disk} {path : String} {bytes : ByteArray}
    (h : d.write path bytes = .ok written) : written.read path = .ok bytes := by
  rw [read, locate_write h]

/-- A plan that is finished, of a run with status zero, is printed and has no errors. -/
theorem prints_of_status
    (hplan : Plan.make d.access environment arguments host = .finished i format e)
    (h : (d.run environment arguments host).2.status = 0) :
    d.Prints environment arguments host e ∧ e.report.hasErrors = false ∧ e.isFound = true := by
  have hspells := Plan.spells_textOf format e
  cases houtput : i.output with
  | none =>
    have hrun := run_of_none hplan houtput
    rw [hrun] at h
    obtain ⟨herrors, hfound, hprinted⟩ := Plan.report_of_status h
    refine ⟨⟨i, format, _, hplan, ?_, e.bind_parse hspells.line⟩, herrors, hfound⟩
    rw [Wrote, houtput, hrun]
    exact hprinted
  | some path =>
    have hrun := run_of_some hplan houtput
    cases hwrite : d.write path (Plan.textOf format e).toUTF8 with
    | error fault =>
      rw [hrun, hwrite] at h
      cases h
    | ok written =>
      rw [hwrite] at hrun
      rw [hrun] at h
      obtain ⟨herrors, hfound, -⟩ := Plan.report_of_status h
      refine ⟨⟨i, format, _, hplan, ?_, e.bind_parse hspells⟩, herrors, hfound⟩
      rw [Wrote, houtput, hrun]
      exact read_of_write hwrite

/-- A run with status zero gives help, or has printed what a reader extracts, without errors. -/
theorem help_or_prints_of_status (h : (d.run environment arguments host).2.status = 0) :
    Invocation.ofArguments? arguments = some .help ∨
      ∃ (r : Reader) (name : String), d.Prints environment arguments host (r.extract name) ∧
        (r.extract name).report.hasErrors = false ∧ (r.extract name).isFound = true := by
  rcases Plan.make_cases d.access environment arguments host with
    hplan | hhelp | ⟨messages, hplan⟩ | ⟨i, format, r, hplan⟩
  · rw [run, hplan] at h
    cases h
  · exact .inl hhelp
  · rw [run, hplan] at h
    cases h
  · exact .inr ⟨r, i.root, prints_of_status hplan h⟩

end Disk

end Metatype
