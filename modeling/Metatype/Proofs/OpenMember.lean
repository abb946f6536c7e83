import Mathlib.Data.List.Induction
import Metatype.Proofs.Growth

/-!
# The member that is open

A collector counts on its cursor when a marker or a default comes in: it goes to the pending
attribute that the cursor is at. Events may come in any order, the pending attributes may be dropped
by the start of a type, kept by an end of the type without an object class, or settled by one with
it; the cursor is never left at a place where none is, or at another one than that opened last.

* `Collector.ensures_step_cursor`: all ways in which an event leaves the cursor in a member.
* `Collector.ensures_cursor`: so the cursor is at the end of the pending attributes, and what has
  come in since the member was opened is found there and nowhere else.
-/

namespace Metatype

open Reporting

/-! ## Attachments -/

/-- Events that belong to the member that is open. -/
def Event.isAttachment : Event → Bool
  | .marker _ | .default .. => true
  | _ => false

/-- A pending attribute with an event attached to it. -/
def Pending.attach (r : Reader) (p : Pending) : Event → Pending
  | .marker (.attribute m) => { p with marker := some m }
  | .marker (.foreign m) => { p with extensions := p.extensions ++ (r.recognizer m).toList }
  | .default _ value => { p with default := some value }
  | _ => p

/-! ## One event -/

namespace Collector

variable (r : Reader) (t : DeclaredType) (isRoot : Bool) (c : Collector)

theorem ensures_resolvePrefix_cursor :
    Ensures (c.resolvePrefix t) fun c' => c'.cursor = c.cursor :=
  (yields_resolvePrefix t c).ensures rfl

/-- After the end of a type the cursor is in no member. -/
theorem ensures_finish_cursor :
    Ensures (c.finish r t isRoot) fun c' => c'.cursor = .ended := by
  unfold finish
  dsimp only
  split
  · exact ensures_pure rfl
  split
  · refine (ensures_resolvePrefix_cursor t _).bind fun c' hc' => ?_
    exact (r.ensures_settleAll t _ _ c'.pending).bind fun _ _ => ensures_pure hc'
  · rw [pure_bind]
    exact (r.ensures_settleAll t _ _ c.pending).bind fun _ _ => ensures_pure rfl

theorem cursor_extend (e : Extension) : (c.extend t e).cursor = c.cursor := by
  unfold extend
  split
  · rfl
  · split <;> rfl
  · split <;> rfl
  · rfl

/-- A marker in a member that is open is attached to it. -/
theorem ensures_mark_cursor (m : Marker) :
    Ensures (c.mark r t m) fun c' => c'.cursor = c.cursor ∧ ∀ i, c.cursor = .member (some i) →
      c'.pending = c.pending.modify i (·.attach r (.marker m)) := by
  match m with
  | .objectClass m =>
    have hkept : ∀ i, c.pending = c.pending.modify i (·.attach r (.marker (.objectClass m))) :=
      fun i => (List.modify_id i c.pending).symm
    simp only [mark, declare]
    split
    · exact ensures_pure ⟨rfl, fun i _ => hkept i⟩
    split
    · exact ensures_pure ⟨rfl, fun i _ => hkept i⟩
    · exact ((yields_error _ _).then_pure c).ensures ⟨rfl, fun i _ => hkept i⟩
  | .attribute m =>
    simp only [mark, describe]
    split
    · rename_i i hi
      refine ensures_pure ⟨rfl, fun j hj => ?_⟩
      cases hi.symm.trans hj
      rfl
    · rename_i hcursor
      exact ((yields_warning _ _).then_pure c).ensures ⟨rfl, fun i hi => absurd hi (hcursor i)⟩
  | .foreign m =>
    simp only [mark]
    split
    · rename_i e he
      refine ensures_pure ⟨cursor_extend t c e, fun i hi => ?_⟩
      simp only [extend, hi, Pending.attach, he, Option.toList_some]
    · rename_i he
      refine ensures_pure ⟨rfl, fun i _ => ?_⟩
      simp only [Pending.attach, he, Option.toList_none, List.append_nil]
      exact (List.modify_id i c.pending).symm

theorem enterDefault_cursor (m : Method) (value : Constant) :
    (c.enterDefault t m value).cursor = c.cursor ∧ ∀ i, c.cursor = .member (some i) →
      (c.enterDefault t m value).pending =
        c.pending.modify i (·.attach r (.default m value)) := by
  rw [enterDefault_eq]
  refine ⟨rfl, fun i hi => ?_⟩
  simp only [hi]
  rfl

/-- All ways in which an event leaves the cursor in a member that is pending: the event opens it, as
the last one, or it is attached to one that has been open before. -/
theorem ensures_step_cursor (e : Event) :
    Ensures (c.step r t isRoot e) fun c' => ∀ i, c'.cursor = .member (some i) →
      (∃ m, e = .method m ∧ m.isStatic = false ∧ i = c.pending.length ∧
        c'.pending = c.pending ++ [.ofMethod m]) ∨
      (e.isAttachment = true ∧ c.cursor = .member (some i) ∧
        c'.pending = c.pending.modify i (·.attach r e)) := by
  cases e with
  | typeStart => exact ensures_pure nofun
  | field f => exact ensures_pure nofun
  | method m =>
    refine ensures_pure fun i hi => ?_
    unfold enterMethod at hi ⊢
    cases hstatic : m.isStatic with
    | true =>
      rw [if_pos hstatic] at hi
      cases hi
    | false =>
      rw [if_neg (by simp [hstatic])] at hi ⊢
      cases hi
      exact .inl ⟨m, rfl, hstatic, rfl, rfl⟩
  | marker m =>
    refine (c.ensures_mark_cursor r t m).mono fun c' hc' i hi => .inr ?_
    have hi : c.cursor = .member (some i) := hc'.1.symm.trans hi
    exact ⟨rfl, hi, hc'.2 i hi⟩
  | default m value =>
    obtain ⟨hcursor, hpending⟩ := c.enterDefault_cursor r t m value
    refine ensures_pure fun i hi => .inr ?_
    have hi : c.cursor = .member (some i) := hcursor.symm.trans hi
    exact ⟨rfl, hi, hpending i hi⟩
  | memberEnd => exact ensures_pure nofun
  | typeEnd =>
    refine (c.ensures_finish_cursor r t isRoot).mono fun c' hc' i hi => ?_
    cases hc'.symm.trans hi

end Collector

/-! ## A sequence of events -/

namespace Collector

variable (r : Reader) (t : DeclaredType) (isRoot : Bool) (d : Draft)

/-- The state of a new collector after some events. -/
def after (events : List Event) : Collector := value ((start d).run r t isRoot events)

/-- The cursor is at the end of the pending attributes, behind those from before the last member was
opened, and there is that member with what came in since. -/
def PointsAtLast (events : List Event) (c : Collector) (i : Nat) : Prop :=
  ∃ before m attached, events = before ++ .method m :: attached ∧ m.isStatic = false ∧
    (∀ e ∈ attached, e.isAttachment = true) ∧ i = (after r t isRoot d before).pending.length ∧
    c.pending = (after r t isRoot d before).pending ++
      [attached.foldl (Pending.attach r) (.ofMethod m)]

variable {r t isRoot d}

theorem PointsAtLast.attach {events : List Event} {c c' : Collector} {i : Nat} {e : Event}
    (h : PointsAtLast r t isRoot d events c i) (he : e.isAttachment = true)
    (hc' : c'.pending = c.pending.modify i (·.attach r e)) :
    PointsAtLast r t isRoot d (events ++ [e]) c' i := by
  obtain ⟨before, m, attached, rfl, hstatic, hattached, rfl, hpending⟩ := h
  refine ⟨before, m, attached ++ [e], by simp, hstatic, ?_, rfl, ?_⟩
  · simpa [or_imp, forall_and] using ⟨hattached, he⟩
  · rw [hc', hpending, modify_last, List.foldl_append]
    rfl

variable (r t isRoot d)

/-- Whatever events a new collector gets, and in whatever order: where its cursor is in a member
that is pending, that is the last of the pending attributes. It was opened last, what came in since
is attached to it, and the others are as they were when it was opened. -/
theorem ensures_cursor (events : List Event) :
    Ensures ((start d).run r t isRoot events) fun c => ∀ i, c.cursor = .member (some i) →
      i + 1 = c.pending.length ∧ PointsAtLast r t isRoot d events c i := by
  induction events using List.reverseRecOn with
  | nil => exact ensures_pure nofun
  | append_singleton events e ih =>
    obtain ⟨c, added, hyields, hc⟩ := ih
    have hstep : c.run r t isRoot [e] = c.step r t isRoot e := by
      rw [run_cons]
      exact bind_pure _
    rw [run_append]
    refine (hyields.ensures (P := (c = ·)) rfl).bind fun _ hsame => ?_
    subst hsame
    rw [hstep]
    refine (c.ensures_step_cursor r t isRoot e).mono fun c' hc' i hi => ?_
    rcases hc' i hi with ⟨m, rfl, hstatic, rfl, hpending⟩ | ⟨hattached, hcursor, hpending⟩
    · have hafter : after r t isRoot d events = c := hyields.value_eq
      refine ⟨by rw [hpending, List.length_append, List.length_singleton], events, m, [], rfl,
        hstatic, fun _ he => absurd he List.not_mem_nil, ?_, ?_⟩
      · rw [hafter]
      · rw [hafter, hpending]
        rfl
    · obtain ⟨hlast, hpoints⟩ := hc i hcursor
      refine ⟨?_, hpoints.attach hattached hpending⟩
      rw [hpending, List.length_modify]
      exact hlast

/-- Members of a type whose end comes too early, with a default and a marker for the second one. -/
def earlyEnd : List Event :=
  [.typeStart, .method { name := "host", returnType := "java.lang.String" }, .typeEnd,
    .method { name := "port", returnType := "int" },
    .default { name := "host", returnType := "java.lang.String" } (.int 80),
    .marker (.attribute { name := some "Port" })]

/-- Without an object class the first member is still pending after the end of the type, and the
cursor is behind it. The default goes to the member that is open, whatever method it comes with. -/
theorem ensures_cursor_earlyEnd :
    let r : Reader := { source := Source.empty }
    let t : DeclaredType := { name := "com.acme.Server", kind := .annotationType }
    let c := after r t true {} earlyEnd
    c.cursor = .member (some 1) ∧ 1 + 1 = c.pending.length ∧
      PointsAtLast r t true {} earlyEnd c 1 := by
  intro r t c
  obtain ⟨c', added, hyields, hc'⟩ := ensures_cursor r t true {} earlyEnd
  have hsame : c' = c := hyields.value_eq.symm
  have hcursor : c.cursor = .member (some 1) := by decide
  rw [hsame] at hc'
  exact ⟨hcursor, hc' 1 hcursor⟩

end Collector

end Metatype
