import Metatype.Extraction
import Metatype.Proofs.Growth

/-!
# Sessions of collectors

Collectors that share a draft and a report, as those of one extraction do. In a session they take
turns in any order. At any time a collector can be created, of any type and with any reader, and any
of them can get any event, whether or not a replay has it there.

* `Session.run_sends`, `Session.run_collect`: what one collector gets in a row is a run of that
  collector, and the events of a type are collected as in an extraction.
* `Session.call_cases`: what one call does to the draft.
* `Session.run_grows`: once there is an object class, it only grows.
* `Collector.run_typeStart_forgets`: a collector that gets the start of a type goes on as a new one.
* `Session.run_typeStart`: so it does whatever the others get.
-/

namespace Metatype

open Reporting

/-! ## Sessions -/

/-- A collector of a session, with what it was created with. -/
structure Worker where
  reader : Reader
  type : DeclaredType
  isRoot : Bool
  /-- What it has gathered. The draft in it is that of its last turn. -/
  collector : Collector

/-- Collectors that share a draft and a report. -/
structure Session where
  draft : Draft := {}
  report : Report := {}
  workers : List Worker := []

/-- What can be done in a session. -/
inductive Call
  | create (reader : Reader) (type : DeclaredType) (isRoot : Bool)
  /-- An event for the worker with the index. -/
  | send (worker : Nat) (e : Event)

/-- A worker as it is created. -/
def Worker.start (r : Reader) (t : DeclaredType) (isRoot : Bool) (d : Draft) : Worker :=
  ⟨r, t, isRoot, .start d⟩

/-- The collector of a worker whose turn it is. -/
def Worker.over (w : Worker) (d : Draft) : Collector := { w.collector with draft := d }

namespace Session

/-- One call. An event for a worker that does not exist does nothing. -/
def call (s : Session) : Call → Session
  | .create r t isRoot => { s with workers := s.workers ++ [.start r t isRoot s.draft] }
  | .send i e =>
    match s.workers[i]? with
    | none => s
    | some w =>
      let (c, report) := ((w.over s.draft).step w.reader w.type w.isRoot e).run s.report
      { draft := c.draft, report, workers := s.workers.set i { w with collector := c } }

/-- A sequence of calls. -/
def run (s : Session) (calls : List Call) : Session := calls.foldl call s

theorem run_cons (s : Session) (c : Call) (calls : List Call) :
    s.run (c :: calls) = (s.call c).run calls := rfl

theorem run_append (s : Session) (before after : List Call) :
    s.run (before ++ after) = (s.run before).run after := List.foldl_append

theorem call_send {s : Session} {i : Nat} {w : Worker} (hw : s.workers[i]? = some w) (e : Event) :
    s.call (.send i e) =
      let (c, report) := ((w.over s.draft).step w.reader w.type w.isRoot e).run s.report
      { draft := c.draft, report, workers := s.workers.set i { w with collector := c } } := by
  rw [call, hw]

/-! ## One collector -/

/-- Events that one worker gets in a row are a run of its collector. -/
theorem run_sends {s : Session} {i : Nat} {w : Worker} (hw : s.workers[i]? = some w)
    (events : List Event) :
    let after := s.run (events.map (.send i))
    ∃ w', after.workers[i]? = some w' ∧
      ((w.over s.draft).run w.reader w.type w.isRoot events).run s.report =
        (w'.over after.draft, after.report) := by
  induction events generalizing s w with
  | nil => exact ⟨w, hw, rfl⟩
  | cons e rest ih =>
    obtain ⟨⟨c, report⟩, hstep⟩ :
        ∃ p, ((w.over s.draft).step w.reader w.type w.isRoot e).run s.report = p := ⟨_, rfl⟩
    have hcall := call_send hw e
    rw [hstep] at hcall
    have hi : i < s.workers.length := (List.getElem?_eq_some_iff.1 hw).1
    have hworker : (s.call (.send i e)).workers[i]? = some { w with collector := c } := by
      rw [hcall]
      exact List.getElem?_set_self hi
    obtain ⟨w', hw', hrun⟩ := ih hworker
    refine ⟨w', hw', ?_⟩
    rw [Collector.run_cons, StateT.run_bind, hstep]
    rw [hcall] at hrun
    rw [List.map_cons, run_cons, hcall]
    exact hrun

/-- The events of a type, sent to a new worker, are collected as in an extraction. -/
theorem run_collect (s : Session) (r : Reader) (t : DeclaredType) (isRoot : Bool) :
    let after := s.run (.create r t isRoot :: t.events.map (.send s.workers.length))
    (r.collect isRoot s.draft t).run s.report = (after.draft, after.report) := by
  have hworker : (s.call (.create r t isRoot)).workers[s.workers.length]? =
      some (.start r t isRoot s.draft) := List.getElem?_concat_length
  obtain ⟨w, -, hrun⟩ := run_sends hworker t.events
  have hcollect : ((Collector.start s.draft).run r t isRoot t.events).run s.report =
      (w.over _, _) := hrun
  intro after
  rw [Reader.collect, StateT.run_bind, hcollect]
  rfl

/-! ## The object class of a session -/

/-- The call gives a session its object class: there was none, and a worker gets the marker that
declares it. -/
structure Declares (s : Session) (c : Call) (w : Worker) (o : ObjectClass) : Prop where
  undeclared : s.draft.objectClass = none
  declared : (s.call c).draft.objectClass = some o
  marker : ∃ i m, c = .send i (.marker (.objectClass m)) ∧ s.workers[i]? = some w ∧
    o = m.objectClass w.type.name w.reader.floor

theorem Declares.revision_eq {s : Session} {c : Call} {w : Worker} {o : ObjectClass}
    (h : s.Declares c w o) : o.revision = w.reader.floor := by
  obtain ⟨i, m, -, -, rfl⟩ := h.marker
  exact m.revision_objectClass _ _

/-- A call lets the object class grow, or declares it. -/
theorem call_cases (s : Session) (c : Call) :
    s.draft.GrowsTo (s.call c).draft ∨ ∃ w o, s.Declares c w o := by
  cases c with
  | create r t isRoot => exact .inl (.refl _)
  | send i e =>
    cases hw : s.workers[i]? with
    | none =>
      have hcall : s.call (.send i e) = s := by rw [call, hw]
      rw [hcall]
      exact .inl (.refl _)
    | some w =>
      obtain ⟨c, added, hyields, hc⟩ :=
        (w.over s.draft).ensures_step w.reader w.type w.isRoot e
      have hdraft : (s.call (.send i e)).draft = c.draft := by
        rw [call_send hw, hyields]
      rcases hc with hgrows | ⟨m, rfl, hnone, hsome⟩
      · rw [hdraft]
        exact .inl hgrows
      · refine .inr ⟨w, _, hnone, ?_, i, m, rfl, hw, rfl⟩
        rw [hdraft]
        exact hsome

theorem exists_grown_of_some {s : Session} {o : ObjectClass} (ho : s.draft.objectClass = some o)
    (calls : List Call) :
    ∃ o', (s.run calls).draft.objectClass = some o' ∧ o.GrowsTo o' := by
  induction calls generalizing s o with
  | nil => exact ⟨o, ho, .refl o⟩
  | cons c rest ih =>
    rcases s.call_cases c with hgrows | ⟨w, first, hdeclares⟩
    · obtain ⟨o', ho', h⟩ := hgrows.exists_some o ho
      obtain ⟨o'', ho'', h'⟩ := ih ho'
      exact ⟨o'', ho'', h.trans h'⟩
    · cases hdeclares.undeclared.symm.trans ho

/-- An object class that a session gets is declared by one of the calls. -/
theorem exists_declares_of_none {s : Session} {o : ObjectClass} {calls : List Call}
    (hnone : s.draft.objectClass = none) (ho : (s.run calls).draft.objectClass = some o) :
    ∃ before c after w first, calls = before ++ c :: after ∧
      (s.run before).Declares c w first ∧ first.GrowsTo o := by
  induction calls generalizing s with
  | nil => cases hnone.symm.trans ho
  | cons c rest ih =>
    rcases s.call_cases c with hgrows | ⟨w, first, hdeclares⟩
    · obtain ⟨before, c', after, w, first, rfl, hdeclares, h⟩ := ih (hgrows.eq_none hnone) ho
      exact ⟨c :: before, c', after, w, first, rfl, hdeclares, h⟩
    · obtain ⟨o', ho', h⟩ := exists_grown_of_some hdeclares.declared rest
      cases ho.symm.trans ho'
      exact ⟨[], c, rest, w, first, rfl, hdeclares, h⟩

/-- Once a session has an object class, it has one after any further calls, and that has grown from
the one before. In a session that began without one, it has grown from what a single marker
declared, and its revision is not below the floor of the reader it was declared with. -/
theorem run_grows (s : Session) (earlier later : List Call) {o : ObjectClass}
    (ho : (s.run earlier).draft.objectClass = some o) :
    (∃ o', (s.run (earlier ++ later)).draft.objectClass = some o' ∧ o.GrowsTo o') ∧
      (s.draft.objectClass = none → ∃ before c after w first, earlier = before ++ c :: after ∧
        (s.run before).Declares c w first ∧ first.GrowsTo o ∧ w.reader.floor ≤ o.revision) := by
  constructor
  · rw [run_append]
    exact exists_grown_of_some ho later
  · intro hnone
    obtain ⟨before, c, after, w, first, hcalls, hdeclares, h⟩ := exists_declares_of_none hnone ho
    refine ⟨before, c, after, w, first, hcalls, hdeclares, h, ?_⟩
    rw [← hdeclares.revision_eq]
    exact h.revision

/-- Two workers of which the first declares an object class. -/
def declaring : List Call :=
  let r : Reader := { source := Source.empty, floor := .v1_3 }
  [.create r { name := "com.acme.Timeouts", kind := .interfaceType } true,
    .create r { name := "com.acme.Retry", kind := .annotationType } false,
    .send 0 (.marker (.objectClass {}))]

/-- Events in an order that no replay has. -/
def disordered : List Call :=
  [.send 1 (.marker (.objectClass { id := some "com.acme.Other" })),
    .send 1 (.method { name := "limit", returnType := "int" }), .send 0 .typeEnd,
    .send 1 .typeEnd, .send 1 .typeEnd, .send 0 .typeStart, .send 0 .typeEnd]

/-- The marker on the other worker declares nothing, and its member is added once. -/
theorem run_grows_disordered :
    ∃ o o' : ObjectClass, (({} : Session).run declaring).draft.objectClass = some o ∧
      (({} : Session).run (declaring ++ disordered)).draft.objectClass = some o' ∧
      o.GrowsTo o' ∧ (o'.id, o'.attributes.map (·.id)) = ("com.acme.Timeouts", ["limit"]) ∧
      ∃ before c after w first, declaring = before ++ c :: after ∧
        (({} : Session).run before).Declares c w first ∧ first.GrowsTo o ∧
        w.reader.floor ≤ o.revision := by
  have hsome : (({} : Session).run declaring).draft.objectClass.isSome = true := by decide
  have hlast : (({} : Session).run (declaring ++ disordered)).draft.objectClass.map
      (fun o => (o.id, o.attributes.map (·.id))) = some ("com.acme.Timeouts", ["limit"]) := by
    decide
  obtain ⟨o, ho⟩ := Option.isSome_iff_exists.1 hsome
  obtain ⟨⟨o', ho', hgrows⟩, hdeclared⟩ := run_grows {} declaring disordered ho
  rw [ho'] at hlast
  exact ⟨o, o', ho, ho', hgrows, Option.some.inj hlast, hdeclared rfl⟩

/-! ## The start of a type -/

/-- A worker that gets the start of a type might as well be new, whatever is done in the session
from there on. -/
theorem run_typeStart {s : Session} {i : Nat} {w : Worker} (hw : s.workers[i]? = some w)
    (calls : List Call) :
    s.run (.send i .typeStart :: calls) =
      ({ s with workers := s.workers.set i (.start w.reader w.type w.isRoot s.draft) }).run
        calls := by
  rw [run_cons, call_send hw]
  rfl

end Session

/-- A collector that gets the start of a type forgets its past. Whatever events it got before, from
there on it ends up in the same state as a collector that is started over the draft it had reached,
and both report the same. -/
theorem Collector.run_typeStart_forgets (r : Reader) (t : DeclaredType) (isRoot : Bool) (d : Draft)
    (history events : List Event) (before other : Report) :
    let reached := ((start d).run r t isRoot history).run before
    ∃ last added,
      (reached.1.run r t isRoot (.typeStart :: events)).run reached.2 =
          (last, ⟨reached.2.items ++ added⟩) ∧
        ((start reached.1.draft).run r t isRoot (.typeStart :: events)).run other =
          (last, ⟨other.items ++ added⟩) := by
  intro reached
  have hstep : ∀ c : Collector, c.run r t isRoot (.typeStart :: events) =
      (start c.draft).run r t isRoot events := by
    intro c
    rw [run_cons, step, pure_bind, reset_eq_start]
  obtain ⟨last, added, hyields, -⟩ := (start reached.1.draft).ensures_run r t isRoot events
  refine ⟨last, added, ?_, ?_⟩
  · rw [hstep]
    exact hyields _
  · rw [hstep]
    exact hyields _

end Metatype
