import Mathlib.Order.Bounds.Basic
import Metatype.Ancestry
import Metatype.Proofs.Reporting

/-!
# The walk as a traversal with a stack

The walk to the ancestors of a type goes on inside of itself for every interface that it finds.
Here it is compared with a loop over an explicit stack of the names that wait to be looked up.

* `Ancestry.traverse`: the loop. A name is taken from the top; those that its type declares are put
  in its place, in the order in which they are declared.
* `Ancestry.traverse_mentions_append`: the walk is the loop.
* `Ancestry.names_within`, `Ancestry.mem_seen_of_stack`, `Ancestry.mem_seen_of_beyond`: what is
  looked up is needed, and what is needed is looked up.
* `Ancestry.walk_traverses_least_closed`: from a root, the walk looks up the least set of names that
  is closed under the interfaces declared on the way, each name once.
-/

namespace Metatype.Ancestry

/-! ## Names on a stack -/

/-- A declared interface that waits to be looked up. -/
structure Mention where
  /-- The type that declares the interface. -/
  owner : String
  name : String
  deriving DecidableEq, Repr

def mentions (t : DeclaredType) : List Mention := t.interfaces.map (Mention.mk t.name)

/-- The step that a lookup leads to. -/
def Mention.answer (s : Source) (m : Mention) : Step :=
  match s.lookup m.name with
  | .found t => .visit t
  | .unknown => .unknown m.name m.owner
  | .failed f => .failed m.name m.owner f

theorem Mention.lookup_of_answer_visit {s : Source} {m : Mention} {t : DeclaredType}
    (h : m.answer s = .visit t) : s.lookup m.name = .found t := by
  unfold answer at h
  split at h
  · rename_i t' hf
    cases h
    exact hf
  · cases h
  · cases h

theorem Mention.lookup_of_answer_failed {s : Source} {m : Mention} {name owner : String}
    {f : Failure} (h : m.answer s = .failed name owner f) : s.lookup name = .failed f := by
  unfold answer at h
  split at h
  · cases h
  · cases h
  · rename_i f' hf
    cases h
    exact hf

/-- The interfaces to go on to from a name: those of the type found for it, unless the walk stops
there. -/
def Route.beyond (r : Route) (name : String) : List Mention :=
  match r.source.lookup name with
  | .found t => if r.goOn t then mentions t else []
  | _ => []

/-- A name that has been looked up, with the step that this led to. -/
structure Encounter where
  name : String
  step : Step
  deriving Repr

/-- The loop over the stack: the lookups that it makes, and the names seen by then. -/
def traverse (r : Route) (stack : List Mention) (seen : List String) :
    List Encounter × List String :=
  match stack with
  | [] => ([], seen)
  | m :: rest =>
    if TypeName.isPlatform r.platform m.name ∨ m.name ∈ seen then traverse r rest seen
    else
      let after := traverse r (r.beyond m.name ++ rest) (m.name :: seen)
      (⟨m.name, m.answer r.source⟩ :: after.1, after.2)
termination_by (r.source.unvisited seen, stack.length)
decreasing_by
  · exact Prod.Lex.right _ (by simp)
  · rename_i hnew
    cases hf : r.source.lookup m.name with
    | found t => exact Prod.Lex.left _ _ (r.source.unvisited_lt hf fun hm => hnew (Or.inr hm))
    | _ =>
      have hle := r.source.unvisited_mono (List.subset_cons_self m.name seen)
      simp only [Route.beyond, hf, List.nil_append]
      rcases Nat.lt_or_eq_of_le hle with hlt | heq
      · exact Prod.Lex.left _ _ hlt
      · rw [heq]
        exact Prod.Lex.right _ (by simp)

theorem traverse_nil (r : Route) (seen : List String) : traverse r [] seen = ([], seen) := by
  rw [traverse]

theorem traverse_skip {r : Route} {m : Mention} {seen : List String}
    (h : TypeName.isPlatform r.platform m.name ∨ m.name ∈ seen) (rest : List Mention) :
    traverse r (m :: rest) seen = traverse r rest seen := by
  rw [traverse, if_pos h]

theorem traverse_enter {r : Route} {m : Mention} {seen : List String}
    (h : ¬(TypeName.isPlatform r.platform m.name ∨ m.name ∈ seen)) (rest : List Mention) :
    traverse r (m :: rest) seen =
      (⟨m.name, m.answer r.source⟩ ::
          (traverse r (r.beyond m.name ++ rest) (m.name :: seen)).1,
        (traverse r (r.beyond m.name ++ rest) (m.name :: seen)).2) := by
  rw [traverse, if_neg h]

/-! ## The walk is the loop -/

theorem follow_skip {r : Route} {owner name : String} {visited : List String}
    (h : TypeName.isPlatform r.platform name ∨ name ∈ visited) (rest : List String) :
    follow r owner (name :: rest) visited = follow r owner rest visited := by
  rw [follow_cons]
  split
  · rfl
  · rename_i hplatform
    rw [if_pos (h.resolve_left hplatform)]

/-- A step of the walk where it does not go on to other interfaces. -/
theorem follow_pass {r : Route} {owner name : String} {visited : List String}
    (h : ¬(TypeName.isPlatform r.platform name ∨ name ∈ visited)) (rest : List String)
    (hstop : ∀ t, r.source.lookup name = .found t → r.goOn t = false) :
    follow r owner (name :: rest) visited =
      (Mention.answer r.source ⟨owner, name⟩ :: (follow r owner rest (name :: visited)).1,
        (follow r owner rest (name :: visited)).2) := by
  rw [not_or] at h
  rw [follow_cons, if_neg h.1, if_neg h.2]
  cases hf : r.source.lookup name with
  | found t => simp [Mention.answer, hf, hstop t hf]
  | unknown => simp [Mention.answer, hf]
  | failed f => simp [Mention.answer, hf]

/-- A step of the walk where it goes on to the interfaces of the type it finds. -/
theorem follow_descend {r : Route} {owner name : String} {visited : List String} {t : DeclaredType}
    (h : ¬(TypeName.isPlatform r.platform name ∨ name ∈ visited)) (rest : List String)
    (hf : r.source.lookup name = .found t) (hgo : r.goOn t = true) :
    follow r owner (name :: rest) visited =
      (.visit t :: (follow r t.name t.interfaces (name :: visited)).1 ++
          (follow r owner rest (follow r t.name t.interfaces (name :: visited)).2).1,
        (follow r owner rest (follow r t.name t.interfaces (name :: visited)).2).2) := by
  rw [not_or] at h
  rw [follow_cons, if_neg h.1, if_neg h.2]
  simp [hf, hgo]

/-- Induction along the walk: a name is left out, passed, or gone on from. -/
theorem follow_induction (r : Route) {P : String → List String → List String → Prop}
    (nil : ∀ owner visited, P owner [] visited)
    (skip : ∀ owner name rest visited, TypeName.isPlatform r.platform name ∨ name ∈ visited →
      P owner rest visited → P owner (name :: rest) visited)
    (pass : ∀ owner name rest visited, ¬(TypeName.isPlatform r.platform name ∨ name ∈ visited) →
      (∀ t, r.source.lookup name = .found t → r.goOn t = false) →
      P owner rest (name :: visited) → P owner (name :: rest) visited)
    (descend : ∀ owner name rest visited t,
      ¬(TypeName.isPlatform r.platform name ∨ name ∈ visited) →
      r.source.lookup name = .found t → r.goOn t = true →
      P t.name t.interfaces (name :: visited) →
      P owner rest (follow r t.name t.interfaces (name :: visited)).2 →
      P owner (name :: rest) visited)
    (owner : String) (names visited : List String) : P owner names visited := by
  induction owner, names, visited using followAll.induct (r := r) with
  | case1 owner visited => exact nil owner visited
  | case2 owner visited name rest hp ih => exact skip _ _ _ _ (Or.inl hp) ih
  | case3 owner visited name rest hp hv ih => exact skip _ _ _ _ (Or.inr hv) ih
  | case4 owner visited name rest hp hv t hf hgo above ihAbove ihAfter =>
    exact descend _ _ _ _ t (not_or.2 ⟨hp, hv⟩) hf hgo ihAbove ihAfter
  | case5 owner visited name rest hp hv t hf hgo ih =>
    refine pass _ _ _ _ (not_or.2 ⟨hp, hv⟩) (fun t' hf' => ?_) ih
    rw [hf] at hf'
    cases hf'
    simpa using hgo
  | case6 owner visited name rest hp hv hf ih =>
    exact pass _ _ _ _ (not_or.2 ⟨hp, hv⟩) (fun t hf' => by rw [hf] at hf'; cases hf') ih
  | case7 owner visited name rest hp hv f hf ih =>
    exact pass _ _ _ _ (not_or.2 ⟨hp, hv⟩) (fun t hf' => by rw [hf] at hf'; cases hf') ih

/-- The loop takes the names that a type declares before the rest of the stack, and makes the steps
of the walk on them. -/
theorem traverse_mentions_append (r : Route) (owner : String) (names visited : List String)
    (rest : List Mention) :
    ∃ encounters : List Encounter,
      encounters.map (·.step) = (follow r owner names visited).1 ∧
      traverse r (names.map (Mention.mk owner) ++ rest) visited =
        (encounters ++ (traverse r rest (follow r owner names visited).2).1,
          (traverse r rest (follow r owner names visited).2).2) := by
  induction owner, names, visited using follow_induction r generalizing rest with
  | nil owner visited => exact ⟨[], by simp [follow_nil], by simp [follow_nil]⟩
  | skip owner name names visited h ih =>
    rw [follow_skip h, List.map_cons, List.cons_append,
      traverse_skip (m := Mention.mk owner name) h]
    exact ih rest
  | pass owner name names visited h hstop ih =>
    obtain ⟨encounters, hsteps, hrun⟩ := ih rest
    have hbeyond : r.beyond name = [] := by
      unfold Route.beyond
      split
      · rename_i t hf
        rw [hstop t hf]
        rfl
      · rfl
    rw [follow_pass h names hstop, List.map_cons, List.cons_append,
      traverse_enter (m := Mention.mk owner name) h, hbeyond, List.nil_append, hrun]
    exact ⟨⟨name, Mention.answer r.source ⟨owner, name⟩⟩ :: encounters, by simp [hsteps], rfl⟩
  | descend owner name names visited t h hf hgo ihAbove ihAfter =>
    obtain ⟨after, hafter, hrunAfter⟩ := ihAfter rest
    obtain ⟨above, habove, hrunAbove⟩ := ihAbove (names.map (Mention.mk owner) ++ rest)
    have hbeyond : r.beyond name = t.interfaces.map (Mention.mk t.name) := by
      simp [Route.beyond, hf, hgo, mentions]
    have hanswer : Mention.answer r.source ⟨owner, name⟩ = .visit t := by
      simp [Mention.answer, hf]
    rw [follow_descend h names hf hgo, List.map_cons]
    simp only [List.cons_append]
    rw [traverse_enter (m := Mention.mk owner name) h, hbeyond, hrunAbove, hrunAfter, hanswer]
    exact ⟨⟨name, .visit t⟩ :: above ++ after, by simp [habove, hafter], by simp⟩

theorem follow_eq_traverse (r : Route) (t : DeclaredType) (visited : List String) :
    follow r t.name t.interfaces visited =
      ((traverse r (mentions t) visited).1.map (·.step), (traverse r (mentions t) visited).2) := by
  obtain ⟨encounters, hsteps, hrun⟩ :=
    traverse_mentions_append r t.name t.interfaces visited []
  rw [List.append_nil, traverse_nil, List.append_nil] at hrun
  rw [mentions, hrun, hsteps]

/-! ## What the loop has seen -/

def lookups (encounters : List Encounter) : List String := encounters.map (·.name)

/-- The names seen are those looked up, the last one first, and those seen before. -/
theorem seen_traverse (r : Route) (stack : List Mention) (seen : List String) :
    (traverse r stack seen).2 = (lookups (traverse r stack seen).1).reverse ++ seen := by
  induction stack, seen using traverse.induct (r := r) with
  | case1 seen => simp [traverse_nil, lookups]
  | case2 seen m rest h ih =>
    rw [traverse_skip h]
    exact ih
  | case3 seen m rest h ih =>
    rw [traverse_enter h]
    simpa [lookups] using ih

theorem seen_subset_traverse (r : Route) (stack : List Mention) (seen : List String) :
    seen ⊆ (traverse r stack seen).2 := by
  rw [seen_traverse]
  exact List.subset_append_right _ _

/-- No name is looked up twice, or that has been seen before. -/
theorem nodup_lookups_append (r : Route) (stack : List Mention) {seen : List String}
    (h : seen.Nodup) : ((lookups (traverse r stack seen).1).reverse ++ seen).Nodup := by
  rw [← seen_traverse]
  induction stack, seen using traverse.induct (r := r) with
  | case1 seen =>
    rw [traverse_nil]
    exact h
  | case2 seen m rest hskip ih =>
    rw [traverse_skip hskip]
    exact ih h
  | case3 seen m rest hnew ih =>
    rw [traverse_enter hnew]
    exact ih (List.nodup_cons.2 ⟨fun hm => hnew (Or.inr hm), h⟩)

/-- Every step is what the source answers to the name. -/
theorem answer_of_mem_traverse (r : Route) (stack : List Mention) (seen : List String) :
    ∀ e ∈ (traverse r stack seen).1, ∃ owner, e.step = Mention.answer r.source ⟨owner, e.name⟩ := by
  induction stack, seen using traverse.induct (r := r) with
  | case1 seen => simp [traverse_nil]
  | case2 seen m rest h ih =>
    rw [traverse_skip h]
    exact ih
  | case3 seen m rest h ih =>
    rw [traverse_enter h]
    intro e he
    rcases List.mem_cons.1 he with rfl | he
    · exact ⟨m.owner, rfl⟩
    · exact ih e he

/-! ## What is needed is looked up -/

/-- Every name on the stack is left out for the platform or has been seen in the end. -/
theorem mem_seen_of_stack (r : Route) (stack : List Mention) (seen : List String) :
    ∀ m ∈ stack, ¬TypeName.isPlatform r.platform m.name → m.name ∈ (traverse r stack seen).2 := by
  induction stack, seen using traverse.induct (r := r) with
  | case1 seen => simp
  | case2 seen m rest h ih =>
    rw [traverse_skip h]
    intro n hn hplatform
    rcases List.mem_cons.1 hn with rfl | hn
    · exact seen_subset_traverse r rest seen (h.resolve_left hplatform)
    · exact ih n hn hplatform
  | case3 seen m rest h ih =>
    rw [traverse_enter h]
    intro n hn hplatform
    rcases List.mem_cons.1 hn with rfl | hn
    · exact seen_subset_traverse r _ _ List.mem_cons_self
    · exact ih n (List.mem_append_right _ hn) hplatform

/-- Every interface to go on to from a name looked up is left out or has been seen in the end. -/
theorem mem_seen_of_beyond (r : Route) (stack : List Mention) (seen : List String) :
    ∀ known ∈ lookups (traverse r stack seen).1, ∀ m ∈ r.beyond known,
      ¬TypeName.isPlatform r.platform m.name → m.name ∈ (traverse r stack seen).2 := by
  induction stack, seen using traverse.induct (r := r) with
  | case1 seen => simp [traverse_nil, lookups]
  | case2 seen m rest h ih =>
    rw [traverse_skip h]
    exact ih
  | case3 seen m rest h ih =>
    rw [traverse_enter h]
    intro known hknown n hn hplatform
    rcases List.mem_cons.1 hknown with rfl | hknown
    · exact mem_seen_of_stack r _ _ n (List.mem_append_left _ hn) hplatform
    · exact ih known hknown n hn hplatform

/-! ## What is looked up is needed -/

/-- The set holds every interface, outside of the platform and other than the root, that is declared
by the root or by a type found for a name in the set, if the walk goes on from there. -/
structure Closed (r : Route) (root : DeclaredType) (L : Set String) : Prop where
  of_root : r.goOn root = true → ∀ name ∈ root.interfaces,
    ¬TypeName.isPlatform r.platform name → name ≠ root.name → name ∈ L
  of_found : ∀ known ∈ L, ∀ t, r.source.lookup known = .found t → r.goOn t = true →
    ∀ name ∈ t.interfaces, ¬TypeName.isPlatform r.platform name → name ≠ root.name → name ∈ L

/-- The mentions that a walk from a root starts with. -/
def start (r : Route) (root : DeclaredType) : List Mention :=
  if r.goOn root then mentions root else []

theorem mem_beyond {r : Route} {known : String} {m : Mention} (h : m ∈ r.beyond known) :
    ∃ t, r.source.lookup known = .found t ∧ r.goOn t = true ∧ m.name ∈ t.interfaces := by
  unfold Route.beyond at h
  split at h
  · rename_i t hf
    split at h
    · rename_i hgo
      obtain ⟨name, hname, rfl⟩ := List.mem_map.1 h
      exact ⟨t, hf, hgo, hname⟩
    · simp at h
  · simp at h

/-- In a closed set that holds what is on the stack, the loop stays. -/
theorem names_within {r : Route} {root : DeclaredType} {L : Set String} (hL : Closed r root L)
    {stack : List Mention} {seen : List String} (hroot : root.name ∈ seen)
    (hstack : ∀ m ∈ stack, ¬TypeName.isPlatform r.platform m.name → m.name ≠ root.name →
      m.name ∈ L) : ∀ name ∈ lookups (traverse r stack seen).1, name ∈ L := by
  induction stack, seen using traverse.induct (r := r) with
  | case1 seen => simp [traverse_nil, lookups]
  | case2 seen m rest h ih =>
    rw [traverse_skip h]
    exact ih hroot fun n hn => hstack n (List.mem_cons_of_mem _ hn)
  | case3 seen m rest h ih =>
    rw [not_or] at h
    have hm : m.name ∈ L :=
      hstack m List.mem_cons_self h.1 fun heq => h.2 (by rw [heq]; exact hroot)
    rw [traverse_enter (not_or.2 h)]
    intro name hname
    rcases List.mem_cons.1 hname with rfl | hname
    · exact hm
    · refine ih (List.mem_cons_of_mem _ hroot) (fun n hn hplatform hne => ?_) name hname
      rcases List.mem_append.1 hn with hn | hn
      · obtain ⟨t, hf, hgo, hdeclared⟩ := mem_beyond hn
        exact hL.of_found m.name hm t hf hgo n.name hdeclared hplatform hne
      · exact hstack n (List.mem_cons_of_mem _ hn) hplatform hne

/-- The names looked up from a root form a closed set. -/
theorem closed_lookups (r : Route) (root : DeclaredType) :
    Closed r root {name | name ∈ lookups (traverse r (start r root) [root.name]).1} := by
  have hseen : ∀ name ∈ (traverse r (start r root) [root.name]).2, name ≠ root.name →
      name ∈ lookups (traverse r (start r root) [root.name]).1 := by
    intro name hname hne
    rw [seen_traverse] at hname
    rcases List.mem_append.1 hname with hname | hname
    · exact List.mem_reverse.1 hname
    · exact absurd (List.mem_singleton.1 hname) hne
  constructor
  · intro hgo name hname hplatform hne
    refine hseen name (mem_seen_of_stack r _ _ ⟨root.name, name⟩ ?_ hplatform) hne
    rw [start, if_pos hgo]
    exact List.mem_map.2 ⟨name, hname, rfl⟩
  · intro known hknown t hf hgo name hname hplatform hne
    refine hseen name (mem_seen_of_beyond r _ _ known hknown ⟨t.name, name⟩ ?_ hplatform) hne
    simp only [Route.beyond, hf, hgo, if_true]
    exact List.mem_map.2 ⟨name, hname, rfl⟩

/-! ## From a root -/

/-- What a lookup comes to: a visit of the type found and no report, or no visit and one report, of
an unknown type or of the failure of the source. -/
def Encounter.Outcome (s : Source) (e : Encounter) : Prop :=
  match s.lookup e.name with
  | .found t => e.step.visited? = some t ∧ Reporting.Yields e.step.report () []
  | .unknown => e.step.visited? = none ∧ ∃ owner,
      Reporting.Yields e.step.report () [⟨.unresolvedType, .error, missing e.name owner, []⟩]
  | .failed f => e.step.visited? = none ∧ ∃ owner,
      Reporting.Yields e.step.report ()
        [⟨.sourceFailure, .error, missing e.name owner, [f.message]⟩]

theorem outcome_of_answer {s : Source} {e : Encounter} {owner : String}
    (h : e.step = Mention.answer s ⟨owner, e.name⟩) : e.Outcome s := by
  unfold Encounter.Outcome
  rw [h]
  unfold Mention.answer
  cases s.lookup e.name with
  | found t => exact ⟨rfl, Reporting.yields_pure ()⟩
  | unknown => exact ⟨rfl, owner, Reporting.yields_error _ _⟩
  | failed f => exact ⟨rfl, owner, Reporting.yields_failure _ _ _⟩

theorem walk_eq_traverse (r : Route) (root : DeclaredType) :
    walk r root [] =
      (.visit root :: (traverse r (start r root) [root.name]).1.map (·.step),
        (traverse r (start r root) [root.name]).2) := by
  have hinsert : ([] : List String).insert root.name = [root.name] := rfl
  rw [walk, hinsert, start]
  split
  · rw [follow_eq_traverse]
  · rw [traverse_nil]
    rfl

/-- The walk from a root visits the root and then makes the steps of the loop. It looks up the least
closed set of names, each name once, and each lookup has one outcome. In the end it has visited the
root and then these names; the last one is first in the list. -/
theorem walk_traverses_least_closed (r : Route) (root : DeclaredType) :
    let encounters := (traverse r (start r root) [root.name]).1
    walk r root [] =
        (.visit root :: encounters.map (·.step), (traverse r (start r root) [root.name]).2) ∧
      IsLeast {L : Set String | Closed r root L} {name | name ∈ lookups encounters} ∧
      (lookups encounters).Nodup ∧
      (∀ e ∈ encounters, e.Outcome r.source) ∧
      (walk r root []).2 = (lookups encounters).reverse ++ [root.name] := by
  intro encounters
  refine ⟨walk_eq_traverse r root, ⟨closed_lookups r root, fun L hL => ?_⟩, ?_, ?_, ?_⟩
  · refine names_within hL List.mem_cons_self fun m hm hplatform hne => ?_
    unfold start at hm
    split at hm
    · rename_i hgo
      obtain ⟨name, hname, rfl⟩ := List.mem_map.1 hm
      exact hL.of_root hgo name hname hplatform hne
    · simp at hm
  · have hroot : [root.name].Nodup := by simp
    have hnodup := nodup_lookups_append r (start r root) hroot
    exact (List.reverse_perm _).nodup_iff.1 (List.nodup_append.1 hnodup).1
  · intro e he
    obtain ⟨owner, howner⟩ := answer_of_mem_traverse r _ _ e he
    exact outcome_of_answer howner
  · rw [walk_eq_traverse, seen_traverse]

end Metatype.Ancestry
