import Metatype.Proofs.Outcome

/-!
# Severities and codes

A problem is reported with a severity of its own, which could be any. In an extraction it always is
that of the code: a warning for the codes with a `W`, an error for those with an `E`. Problems that
a failing source has caused have the text of the failure as their only detail, all others have none.

* `Diagnostic.IsGraded`: the severity and the details that go with a code.
* `Reader.isGraded_mapType`, `Reader.isGraded_memberProblems`: return types and members.
* `Reader.isGraded_stepProblems`: a step of the walk.
* `Reader.severity_read`: a whole extraction, and what it does to the numbers of a report.
-/

namespace Metatype

open Reporting

/-! ## The severity of a code -/

namespace Code

/-- The codes of warnings. -/
def warnings : List Code := [.misplacedAttributeMarker, .invalidPrefix, .annotationNested]

/-- How serious the problems with a code are. -/
def severity (c : Code) : Severity := if c ∈ warnings then .warning else .error

/-- The letter that the short form of a code starts with. -/
def letter? (c : Code) : Option Char := c.id.toList.head?

theorem severity_eq_error_iff (c : Code) : c.severity = .error ↔ c.letter? = some 'E' := by
  cases c <;> decide

theorem severity_eq_warning_iff (c : Code) : c.severity = .warning ↔ c.letter? = some 'W' := by
  cases c <;> decide

theorem severity_eq_or (c : Code) : c.severity = .error ∨ c.severity = .warning := by
  cases c <;> decide

end Code

/-! ## Problems that go with their codes -/

/-- A problem has the severity of its code. It has one detail, the text of a failure of the source,
if its code is that of such a failure, and none otherwise. -/
structure Diagnostic.IsGraded (s : Source) (d : Diagnostic) : Prop where
  severity : d.severity = d.code.severity
  failure : d.code = .sourceFailure →
    ∃ name f, s.lookup name = .failed f ∧ d.context = [f.message]
  plain : d.code ≠ .sourceFailure → d.context = []

/-- All of the problems go with their codes. -/
def Source.Grades (s : Source) (items : List Diagnostic) : Prop := ∀ d ∈ items, d.IsGraded s

namespace Source

variable {s : Source}

theorem grades_nil : s.Grades [] := by simp [Grades]

theorem grades_plain {code : Code} {severity : Severity} (hcode : code ≠ .sourceFailure)
    (hseverity : severity = code.severity) (message : String) :
    s.Grades [⟨code, severity, message, []⟩] := by
  intro d hd
  rw [List.mem_singleton.1 hd]
  exact ⟨hseverity, fun h => absurd h hcode, fun _ => rfl⟩

theorem grades_failure {name : String} {f : Failure} (h : s.lookup name = .failed f)
    (message : String) : s.Grades [⟨.sourceFailure, .error, message, [f.message]⟩] := by
  intro d hd
  rw [List.mem_singleton.1 hd]
  exact ⟨rfl, fun _ => ⟨name, f, h, rfl⟩, fun hcode => absurd rfl hcode⟩

theorem Grades.append {items more : List Diagnostic} (h : s.Grades items) (h' : s.Grades more) :
    s.Grades (items ++ more) := List.forall_mem_append.2 ⟨h, h'⟩

theorem Grades.flatMap {α : Type} {items : List α} {f : α → List Diagnostic}
    (h : ∀ a ∈ items, s.Grades (f a)) : s.Grades (items.flatMap f) := by
  intro d hd
  obtain ⟨a, ha, hd⟩ := List.mem_flatMap.1 hd
  exact h a ha d hd

end Source

open Source

/-! ## Members -/

namespace Reader

variable (r : Reader)

theorem isGraded_verdict (name : String) : r.source.Grades (r.verdict name).problems := by
  unfold verdict
  split
  · exact grades_nil
  · split
    · split
      · exact grades_nil
      · split
        · exact grades_plain (by decide) (by decide) _
        · exact grades_plain (by decide) (by decide) _
    · exact grades_plain (by decide) (by decide) _
    · rename_i f hf
      exact grades_failure hf _

theorem isGraded_mapType (owner member returnType : String) :
    r.source.Grades (added (r.mapType owner member returnType)) := by
  rw [(r.yields_returnVerdict owner member returnType).added_eq]
  unfold returnVerdict elementVerdict
  dsimp only
  split
  · exact grades_plain (by decide) (by decide) _
  · split
    · exact grades_plain (by decide) (by decide) _
    · exact r.isGraded_verdict _

theorem isGraded_choiceProblems (owner member element : String) :
    r.source.Grades (r.choiceProblems owner member element) := by
  unfold choiceProblems
  split
  · exact grades_nil
  · split
    · rename_i f hf
      exact grades_failure hf _
    · exact grades_nil

theorem isGraded_defaultProblems (member element : String) :
    r.source.Grades (r.defaultProblems member element) := by
  unfold defaultProblems
  split
  · exact grades_nil
  · split
    · split
      · exact grades_plain (by decide) (by decide) _
      · exact grades_nil
    · exact grades_nil
    · rename_i f hf
      exact grades_failure hf _

theorem isGraded_memberProblems (t : DeclaredType) (m : Method) :
    r.source.Grades (r.memberProblems t m) := by
  unfold memberProblems elementProblems
  split
  · exact grades_plain (by decide) (by decide) _
  · split
    · refine ((r.isGraded_mapType _ _ _).append (r.isGraded_choiceProblems _ _ _)).append ?_
      split
      · exact r.isGraded_defaultProblems _ _
      · exact grades_nil
    · exact grades_plain (by decide) (by decide) _

/-! ## Types -/

theorem isGraded_looseProblems (t : DeclaredType) (m : Marker) :
    r.source.Grades (t.looseProblems m) := by
  match m with
  | .objectClass _ => exact grades_nil
  | .attribute _ => exact grades_plain (by decide) (by decide) _
  | .foreign _ => exact grades_nil

theorem isGraded_headProblems (t : DeclaredType) (allowed : Bool) (m : Marker) :
    r.source.Grades (t.headProblems allowed m) := by
  match m with
  | .objectClass _ =>
    cases allowed with
    | true => exact grades_nil
    | false => exact grades_plain (by decide) (by decide) _
  | .attribute _ => exact grades_plain (by decide) (by decide) _
  | .foreign _ => exact grades_nil

theorem isGraded_markerProblems (t : DeclaredType) (allowed : Bool) :
    r.source.Grades
      (t.markers.flatMap (t.headProblems allowed) ++ t.looseMarkers.flatMap t.looseProblems) :=
  (Grades.flatMap fun m _ => r.isGraded_headProblems t allowed m).append
    (Grades.flatMap fun m _ => r.isGraded_looseProblems t m)

theorem isGraded_prefixProblems (t : DeclaredType) (field : Option Field) :
    r.source.Grades (t.prefixProblems field) := by
  unfold DeclaredType.prefixProblems
  split
  · exact grades_nil
  · split
    · exact grades_nil
    · exact grades_plain (by decide) (by decide) _

theorem isGraded_visitProblems (t : DeclaredType) (isRoot : Bool) :
    r.source.Grades (r.visitProblems t isRoot) :=
  (r.isGraded_markerProblems t true).append
    ((r.isGraded_prefixProblems t _).append
      (Grades.flatMap fun m _ => r.isGraded_memberProblems t m))

/-! ## The walk -/

/-- A failure that the walk meets is the answer of the source to the name. -/
theorem lookup_of_failed {root : DeclaredType} {name owner : String} {f : Failure}
    (h : .failed name owner f ∈ r.stepsAbove root) : r.source.lookup name = .failed f := by
  obtain ⟨_, _, _, hanswer⟩ := exists_encounter h
  exact Ancestry.Mention.lookup_of_answer_failed hanswer

theorem isGraded_stepProblems {root : DeclaredType} {s : Ancestry.Step}
    (h : s ∈ r.stepsAbove root) : r.source.Grades (r.stepProblems root.name s) := by
  cases s with
  | visit t => exact r.isGraded_visitProblems t _
  | unknown name owner => exact grades_plain (by decide) (by decide) _
  | failed name owner f => exact grades_failure (r.lookup_of_failed h) _

theorem isGraded_problems (root : DeclaredType) : r.source.Grades (r.problems root) := by
  unfold problems
  split
  · exact (r.isGraded_visitProblems root true).append
      (Grades.flatMap fun s hs => r.isGraded_stepProblems hs)
  · exact r.isGraded_markerProblems root root.isInterface

end Reader

/-! ## Reports -/

/-- Problems have been added to a report that go with their codes. As each of them is an error or a
warning, the two numbers together have grown by as many, and there are errors only if there were
any before or one of the codes starts with an `E`. -/
structure Report.GrowsGraded (s : Source) (before after : Report) (added : List Diagnostic) :
    Prop where
  items : after.items = before.items ++ added
  isGraded : ∀ d ∈ added, d.IsGraded s
  warning_iff : ∀ d ∈ added, d.severity = .warning ↔ d.code.letter? = some 'W'
  length : after.errors.length + after.warnings.length =
    before.errors.length + before.warnings.length + added.length
  hasErrors_iff : after.hasErrors = true ↔
    before.hasErrors = true ∨ ∃ d ∈ added, d.code.letter? = some 'E'

namespace Report

theorem hasErrors_iff_exists (r : Report) :
    r.hasErrors = true ↔ ∃ d ∈ r.items, d.severity = .error := by
  rw [hasErrors, Bool.not_eq_true', List.isEmpty_eq_false_iff_exists_mem]
  exact exists_congr fun d => by rw [errors, List.mem_filter, decide_eq_true_iff]

theorem length_errors_add_warnings {s : Source} {items : List Diagnostic} (h : s.Grades items) :
    (errors ⟨items⟩).length + (warnings ⟨items⟩).length = items.length := by
  have hwarnings : warnings ⟨items⟩ = items.filter fun d => !decide (d.severity = .error) := by
    refine List.filter_congr fun d hd => ?_
    rw [(h d hd).severity]
    rcases d.code.severity_eq_or with hcode | hcode <;> rw [hcode] <;> decide
  have hcount := List.length_eq_countP_add_countP (l := items)
    fun d : Diagnostic => decide (d.severity = .error)
  rw [hwarnings, hcount, errors, List.countP_eq_length_filter, List.countP_eq_length_filter]
  simp

theorem growsGraded_append {s : Source} {added : List Diagnostic} (h : s.Grades added)
    (before : Report) : GrowsGraded s before ⟨before.items ++ added⟩ added where
  items := rfl
  isGraded := h
  warning_iff d hd := by rw [(h d hd).severity, d.code.severity_eq_warning_iff]
  length := by
    have hadded := length_errors_add_warnings h
    simp only [errors, warnings, List.filter_append, List.length_append] at hadded ⊢
    omega
  hasErrors_iff := by
    simp only [hasErrors_iff_exists, List.mem_append, or_and_right, exists_or]
    refine or_congr_right (exists_congr fun d => and_congr_right fun hd => ?_)
    rw [(h d hd).severity, d.code.severity_eq_error_iff]

end Report

/-- In every extraction, from a root or by a name, the problems that are added to a report go with
their codes, whatever stands in the report already. -/
theorem Reader.severity_read (r : Reader) (before : Report) :
    (∀ root, ∃ added,
      Report.GrowsGraded r.source before ((r.read root).run before).2 added) ∧
    ∀ name, ∃ added,
      Report.GrowsGraded r.source before ((r.readType name).run before).2 added := by
  have hread : ∀ root, ∃ added,
      Report.GrowsGraded r.source before ((r.read root).run before).2 added := by
    intro root
    rw [r.yields_read root before]
    exact ⟨_, Report.growsGraded_append (r.isGraded_problems root) before⟩
  refine ⟨hread, fun name => ?_⟩
  unfold readType
  cases hlookup : r.source.lookup name with
  | found root => exact hread root
  | unknown => exact ⟨_, Report.growsGraded_append (grades_plain (by decide) (by decide) _) before⟩
  | failed f => exact ⟨_, Report.growsGraded_append (grades_failure hlookup _) before⟩

end Metatype
