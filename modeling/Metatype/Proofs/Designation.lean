import Metatype.Proofs.Identity
import Metatype.Proofs.Session

/-!
# Designations

An object class is designated for a configuration once, and once more if it is that of a factory.
What an object class marker names is designated when the marker declares the object class, the first
occurrence of each in order. Afterwards no event of a collector designates anything. The operations
of an object class designate a configuration only if it is not designated yet.

* `ObjectClass.designate_of_mem`, `ObjectClass.designate_of_not_mem`: one designation.
* `ObjectClass.designates_run`: the designates after any operations.
* `designated_once`: no designation is made twice, by a marker or by operations.
-/

namespace Metatype

theorem nodup_eraseDups {α : Type} [BEq α] [LawfulBEq α] (items : List α) :
    items.eraseDups.Nodup := by
  induction h : items.length using Nat.strongRecOn generalizing items with
  | ind n ih =>
    cases items with
    | nil => simp
    | cons a rest =>
      have hlength : (rest.filter fun b => !b == a).length < n := by
        have := List.length_filter_le (fun b => !b == a) rest
        rw [List.length_cons] at h
        omega
      rw [List.eraseDups_cons, List.nodup_cons, List.mem_eraseDups]
      exact ⟨by simp, ih _ hlength _ rfl⟩

namespace ObjectClass

/-! ## Bindings -/

/-- The configurations that an object class is designated for, each with whether it is that of a
factory. -/
def bindings (o : ObjectClass) : List (String × Bool) := o.designates.map fun d => (d.pid, d.factory)

/-- The designate of an object class for a binding. -/
def designateFor (o : ObjectClass) (p : String × Bool) : Designate := ⟨o.id, p.1, p.2⟩

theorem isDesignated_iff (o : ObjectClass) (pid : String) (factory : Bool) :
    o.isDesignated pid factory = true ↔ (pid, factory) ∈ o.bindings := by
  simp only [isDesignated, bindings, List.any_eq_true, List.mem_map, Bool.and_eq_true,
    decide_eq_true_eq, Prod.mk.injEq]

theorem designate_of_mem {o : ObjectClass} {pid : String} {factory : Bool}
    (h : (pid, factory) ∈ o.bindings) : o.designate pid factory = (o, false) :=
  designate_of_isDesignated ((o.isDesignated_iff pid factory).2 h)

theorem designate_of_not_mem {o : ObjectClass} {pid : String} {factory : Bool}
    (h : (pid, factory) ∉ o.bindings) :
    o.designate pid factory =
      ({ o with designates := o.designates ++ [o.designateFor (pid, factory)] }, true) := by
  rw [designate, if_neg (mt (o.isDesignated_iff pid factory).1 h)]
  rfl

/-- A designation is new exactly if its binding is, and otherwise it changes nothing. -/
theorem designate_snd_iff (o : ObjectClass) (pid : String) (factory : Bool) :
    ((o.designate pid factory).2 = true ↔ (pid, factory) ∉ o.bindings) ∧
      ((o.designate pid factory).2 = false → (o.designate pid factory).1 = o) := by
  by_cases h : (pid, factory) ∈ o.bindings
  · simp [designate_of_mem h, h]
  · simp [designate_of_not_mem h, h]

/-! ## Operations -/

/-- What can be done to an object class. -/
inductive Change
  | raise (wanted : Revision)
  | designate (pid : String) (factory : Bool)
  | push (a : Attribute)

/-- The binding that a change asks for. -/
def Change.binding? : Change → Option (String × Bool)
  | .designate pid factory => some (pid, factory)
  | _ => none

/-- One operation. -/
def change (o : ObjectClass) : Change → ObjectClass
  | .raise wanted => o.raise wanted
  | .designate pid factory => (o.designate pid factory).1
  | .push a => o.push a

/-- A sequence of operations. -/
def run (o : ObjectClass) (changes : List Change) : ObjectClass := changes.foldl change o

theorem run_cons (o : ObjectClass) (c : Change) (changes : List Change) :
    o.run (c :: changes) = (o.change c).run changes := rfl

/-- The bindings that are asked for and not there, each once. -/
def newBindings (o : ObjectClass) (asked : List (String × Bool)) : List (String × Bool) :=
  (asked.filter (· ∉ o.bindings)).eraseDups

theorem newBindings_cons_of_mem {o : ObjectClass} {p : String × Bool} (h : p ∈ o.bindings)
    (asked : List (String × Bool)) : o.newBindings (p :: asked) = o.newBindings asked := by
  simp [newBindings, h]

theorem newBindings_cons_of_not_mem {o o' : ObjectClass} {p : String × Bool} (h : p ∉ o.bindings)
    (hbindings : o'.bindings = o.bindings ++ [p]) (asked : List (String × Bool)) :
    o.newBindings (p :: asked) = p :: o'.newBindings asked := by
  have hfilter : (asked.filter (· ∉ o.bindings)).filter (fun q => !q == p) =
      asked.filter (· ∉ o'.bindings) := by
    rw [List.filter_filter, hbindings]
    refine List.filter_congr fun q _ => ?_
    by_cases hq : q = p <;> simp [hq]
  rw [newBindings, List.filter_cons_of_pos (by simpa using h), List.eraseDups_cons, hfilter]
  rfl

/-- Whatever operations are made, the designates that there are stay, and new ones follow in the
order in which they are first asked for. -/
theorem designates_run (o : ObjectClass) (changes : List Change) :
    (o.run changes).designates =
      o.designates ++ (o.newBindings (changes.filterMap Change.binding?)).map o.designateFor := by
  induction changes generalizing o with
  | nil => simp [run, newBindings]
  | cons c rest ih =>
    rw [run_cons, ih]
    rcases c with wanted | ⟨pid, factory⟩ | a
    · rfl
    · have hasked : (Change.designate pid factory :: rest).filterMap Change.binding? =
          (pid, factory) :: rest.filterMap Change.binding? := rfl
      rw [hasked]
      by_cases h : (pid, factory) ∈ o.bindings
      · rw [change, designate_of_mem h, newBindings_cons_of_mem h]
      · rw [change, designate_of_not_mem h]
        have hbindings : ({ o with
            designates := o.designates ++ [o.designateFor (pid, factory)] } : ObjectClass).bindings =
              o.bindings ++ [(pid, factory)] := List.map_append
        rw [newBindings_cons_of_not_mem h hbindings, List.map_cons, List.append_assoc]
        rfl
    · rfl

/-! ## No binding twice -/

theorem bindings_eq_of_designates {o : ObjectClass} {pids : List (String × Bool)}
    (h : o.designates = pids.map o.designateFor) : o.bindings = pids := by
  rw [bindings, h, List.map_map]
  exact List.map_id pids

theorem bindings_run (o : ObjectClass) (changes : List Change) :
    (o.run changes).bindings =
      o.bindings ++ o.newBindings (changes.filterMap Change.binding?) := by
  rw [bindings, designates_run, List.map_append, List.map_map]
  exact congrArg (o.bindings ++ ·) (List.map_id _)

theorem nodup_bindings_run {o : ObjectClass} (h : o.bindings.Nodup) (changes : List Change) :
    (o.run changes).bindings.Nodup := by
  rw [bindings_run, List.nodup_append]
  refine ⟨h, nodup_eraseDups _, fun p hp q hq heq => ?_⟩
  rw [newBindings, List.mem_eraseDups, List.mem_filter, decide_eq_true_iff] at hq
  exact hq.2 (heq ▸ hp)

end ObjectClass

/-! ## What a marker designates -/

namespace Session

/-- A marker that declares an object class decides what it is designated for, whatever the
collectors of the session get from then on. -/
theorem designates_declared {s : Session} {i : Nat} {w : Worker} (hw : s.workers[i]? = some w)
    (hnone : s.draft.objectClass = none) (hcursor : w.collector.cursor = .type)
    (ht : w.type.isInterface = true) (m : ObjectClassMarker) (later : List Call) :
    ∃ o, (s.run (.send i (.marker (.objectClass m)) :: later)).draft.objectClass = some o ∧
      o.designates = (m.pids w.type.name).eraseDups.map o.designateFor := by
  have hstep : (w.over s.draft).step w.reader w.type w.isRoot (.marker (.objectClass m)) =
      pure { w.over s.draft with
        draft := { s.draft with objectClass := m.objectClass w.type.name w.reader.floor } } := by
    simp [Collector.step, Collector.mark, Collector.declare, Worker.over, hcursor, hnone, ht]
  have hdeclared : (s.call (.send i (.marker (.objectClass m)))).draft.objectClass =
      some (m.objectClass w.type.name w.reader.floor) := by
    rw [call_send hw, hstep]
    rfl
  obtain ⟨o, ho, hgrows⟩ := exists_grown_of_some hdeclared later
  refine ⟨o, ho, ?_⟩
  have hdesignate : o.designateFor =
      (m.objectClass w.type.name w.reader.floor).designateFor := by
    funext p
    rw [ObjectClass.designateFor, hgrows.id]
    rfl
  rw [hgrows.designates, hdesignate, ObjectClassMarker.objectClass_eq]
  rfl

end Session

/-- A marker that declares an object class on an interface or an annotation type designates it for
what it names as configurations and then for what it names as those of factories, each once and in
the order of the first occurrences, where the name of the type stands for `$`. This stays so whatever
the collectors get. No operations on an object class without two designates of one binding make two.
A designation is new exactly if its binding is not there, and otherwise it changes nothing. -/
theorem designated_once :
    (∀ (s : Session) (i : Nat) (w : Worker) (m : ObjectClassMarker) (later : List Call),
        s.workers[i]? = some w → s.draft.objectClass = none → w.collector.cursor = .type →
        (w.type.kind = .interfaceType ∨ w.type.kind = .annotationType) →
        let named := fun pid => if pid = "$" then w.type.name else pid
        let asked := (m.pid.getD []).map (fun pid => (named pid, false)) ++
          (m.factoryPid.getD []).map fun pid => (named pid, true)
        ∃ o, (s.run (.send i (.marker (.objectClass m)) :: later)).draft.objectClass = some o ∧
          o.designates = asked.eraseDups.map (fun p => ⟨o.id, p.1, p.2⟩) ∧ o.bindings.Nodup) ∧
      ∀ (o : ObjectClass) (changes : List ObjectClass.Change), o.bindings.Nodup →
        let last := o.run changes
        last.bindings.Nodup ∧
          (last.designates = o.designates ++
            (o.newBindings (changes.filterMap (·.binding?))).map fun p => ⟨o.id, p.1, p.2⟩) ∧
          ∀ pid factory,
            ((last.designate pid factory).2 = true ↔ (pid, factory) ∉ last.bindings) ∧
            ((last.designate pid factory).2 = false → (last.designate pid factory).1 = last) := by
  constructor
  · intro s i w m later hw hnone hcursor hkind named asked
    have ht := (DeclaredType.isInterface_iff w.type).2 hkind
    obtain ⟨o, ho, hdesignates⟩ := Session.designates_declared hw hnone hcursor ht m later
    refine ⟨o, ho, hdesignates, ?_⟩
    rw [ObjectClass.bindings_eq_of_designates hdesignates]
    exact nodup_eraseDups _
  · intro o changes hnodup last
    exact ⟨ObjectClass.nodup_bindings_run hnodup changes, o.designates_run changes,
      last.designate_snd_iff⟩

/-- A session with a collector of an annotation type and one of an interface. -/
def mailing : Session :=
  { workers := [
      .start { source := .empty } { name := "com.acme.Mail", kind := .annotationType } true {},
      .start { source := .empty } { name := "com.acme.Post", kind := .interfaceType } false {}] }

/-- A marker that names the type twice, once by `$`, and other configurations again and again. -/
def mailMarker : ObjectClassMarker :=
  { pid := some ["box", "$", "com.acme.Mail", "box"], factoryPid := some ["$", "box", "$"] }

/-- What a later marker names makes no difference. The operations ask for one binding twice. -/
theorem designated_once_mail :
    (∃ o, (mailing.run [.send 0 (.marker (.objectClass mailMarker)),
          .send 1 (.marker (.objectClass { pid := some ["post"] })), .send 0 .typeEnd]).draft.objectClass
        = some o ∧
        o.bindings =
          [("box", false), ("com.acme.Mail", false), ("com.acme.Mail", true), ("box", true)]) ∧
      let o := ObjectClass.new "mail" "Mail" "" "" .v1_2
      let last := o.run [.designate "box" true, .raise .v1_4, .designate "box" true,
        .designate "box" false]
      o.bindings.Nodup ∧ last.designates = [⟨"mail", "box", true⟩, ⟨"mail", "box", false⟩] ∧
        (last.designate "box" true).1 = last := by
  obtain ⟨hdeclared, hrun⟩ := designated_once
  constructor
  · obtain ⟨o, ho, hdesignates, -⟩ := hdeclared mailing 0 _ mailMarker
      [.send 1 (.marker (.objectClass { pid := some ["post"] })), .send 0 .typeEnd] rfl rfl rfl
      (.inr rfl)
    refine ⟨o, ho, ?_⟩
    rw [ObjectClass.bindings_eq_of_designates hdesignates]
    decide
  · intro o last
    have hnodup : o.bindings.Nodup := List.nodup_nil
    obtain ⟨-, hdesignates, hnew⟩ := hrun o [.designate "box" true, .raise .v1_4,
      .designate "box" true, .designate "box" false] hnodup
    exact ⟨hnodup, hdesignates.trans (by decide), (hnew "box" true).2 (by decide)⟩

end Metatype
