import Metatype.Extraction
import Metatype.Proofs.Replay
import Metatype.Proofs.Traversal
import Metatype.Registry

/-!
# The members of an extraction

An extraction visits a root and its ancestors and collects each of them into one draft. Every member
that is met on the way is accounted for: as an attribute, as a constructor, or as a member with
parameters.

* `Reader.lineage`: the root and its ancestors, in the order of the walk.
* `Reader.yields_takeStep`, `Reader.accounts_takeStep`: one step of the walk.
* `Reader.yields_read_declared`, `Reader.yields_read_undeclared`: an extraction, as types that are
  collected one after another.
* `Reader.accounts_read`: the attributes of the object class, and the errors on members.
-/

namespace Metatype

open Reporting

/-! ## Sources of types under their own names -/

/-- Every type is found under its own name. -/
def Source.IsFaithful (s : Source) : Prop := ∀ name t, s.lookup name = .found t → t.name = name

theorem Registry.isFaithful_source (r : Registry) : r.source.IsFaithful :=
  fun _ _ h => name_of_find? (find?_of_lookup h)

/-! ## The lineage of a root -/

namespace Reader

/-- The types that a walk visits from a root, if it never stops. -/
def lineage (r : Reader) (root : DeclaredType) : List DeclaredType :=
  (Ancestry.walk r.route root []).1.filterMap Ancestry.Step.visited?

/-- The steps of the walk after the root. -/
def stepsAbove (r : Reader) (root : DeclaredType) : List Ancestry.Step :=
  (Ancestry.follow r.route root.name root.interfaces [root.name]).1

theorem lineage_eq (r : Reader) (root : DeclaredType) :
    r.lineage root = root :: (r.stepsAbove root).filterMap Ancestry.Step.visited? := by
  have hwalk : Ancestry.walk r.route root [] = (.visit root :: r.stepsAbove root,
      (Ancestry.follow r.route root.name root.interfaces [root.name]).2) := by
    have hinsert : ([] : List String).insert root.name = [root.name] := rfl
    rw [Ancestry.walk, hinsert]
    exact if_pos rfl
  rw [lineage, hwalk]
  rfl

/-- Every step after the root is what the source answers to a name that the loop looks up. -/
theorem exists_encounter {r : Reader} {root : DeclaredType} {s : Ancestry.Step}
    (h : s ∈ r.stepsAbove root) :
    ∃ owner, ∃ name ∈ Ancestry.lookups
        (Ancestry.traverse r.route (Ancestry.mentions root) [root.name]).1,
      Ancestry.Mention.answer r.source ⟨owner, name⟩ = s := by
  rw [stepsAbove, Ancestry.follow_eq_traverse] at h
  obtain ⟨e, he, rfl⟩ := List.mem_map.1 h
  obtain ⟨owner, hanswer⟩ := Ancestry.answer_of_mem_traverse _ _ _ e he
  exact ⟨owner, e.name, List.mem_map_of_mem he, hanswer.symm⟩

/-- Under a faithful source no ancestor has the name of the root. -/
theorem name_ne_of_visit {r : Reader} (hfaithful : r.source.IsFaithful) (root : DeclaredType)
    {t : DeclaredType} (h : .visit t ∈ r.stepsAbove root) : t.name ≠ root.name := by
  obtain ⟨owner, name, hname, hanswer⟩ := exists_encounter h
  rw [hfaithful name t (Ancestry.Mention.lookup_of_answer_visit hanswer)]
  have hroot : [root.name].Nodup := by simp
  have hnodup := Ancestry.nodup_lookups_append r.route (Ancestry.mentions root) hroot
  intro heq
  exact (List.nodup_append.1 hnodup).2.2 name (List.mem_reverse.2 hname) root.name
    List.mem_cons_self heq

/-! ## Accounts -/

/-- Between two drafts the members of some types are accounted for: their elements as attributes,
under a prefix, their constructors and their members with parameters as errors. -/
structure Accounts (r : Reader) (keyPrefix : Option String) (types : List DeclaredType)
    (before after : Draft) (added : List Diagnostic) : Prop where
  keyPrefix_eq : after.keyPrefix = keyPrefix
  isSome : after.objectClass.isSome = true
  attributes : after.attributes = before.attributes ++ types.flatMap fun t =>
    t.elements.map (r.memberAttribute t.kind t.name keyPrefix t.shorthand?)
  constructors : added.filter (·.code = .constructorFound) =
    types.flatMap fun t => t.constructors.map t.constructorProblem
  parameterized : added.filter (·.code = .parameterizedMember) =
    types.flatMap fun t => t.parameterized.map t.parameterizedProblem

theorem Accounts.append {r : Reader} {keyPrefix : Option String} {types more : List DeclaredType}
    {d d' d'' : Draft} {l m : List Diagnostic} (h : r.Accounts keyPrefix types d d' l)
    (h' : r.Accounts keyPrefix more d' d'' m) :
    r.Accounts keyPrefix (types ++ more) d d'' (l ++ m) where
  keyPrefix_eq := h'.keyPrefix_eq
  isSome := h'.isSome
  attributes := by rw [h'.attributes, h.attributes, List.flatMap_append, List.append_assoc]
  constructors := by
    rw [List.filter_append, h.constructors, h'.constructors, List.flatMap_append]
  parameterized := by
    rw [List.filter_append, h.parameterized, h'.parameterized, List.flatMap_append]

theorem accounts_collected (r : Reader) (t : DeclaredType) (isRoot : Bool) (d : Draft)
    (h : (r.collected t isRoot d).objectClass.isSome = true) :
    r.Accounts (((Field.lastPrefix? isRoot t.fields).bind Field.keyPrefix?).or d.keyPrefix) [t] d
      (r.collected t isRoot d) (r.collectProblems t isRoot d) := by
  obtain ⟨hkey, hattributes⟩ := r.attributes_collected t isRoot d h
  refine ⟨hkey, h, ?_, ?_, ?_⟩
  · rw [hattributes, hkey, List.flatMap_singleton]
  · rw [r.filter_collectProblems t isRoot d h (by decide), List.flatMap_singleton,
      List.map_eq_flatMap]
    simp only [constructor_memberProblems, flatMap_ite]
    rfl
  · rw [r.filter_collectProblems t isRoot d h (by decide), List.flatMap_singleton,
      List.map_eq_flatMap]
    simp only [parameterized_memberProblems, flatMap_ite]
    rfl

theorem yields_collect (r : Reader) (isRoot : Bool) (d : Draft) (t : DeclaredType) :
    Yields (r.collect isRoot d t) (r.collected t isRoot d) (r.collectProblems t isRoot d) := by
  obtain ⟨after, hyields, hdraft⟩ := Collector.yields_events r t isRoot (.start d)
  have hcollect := hyields.map fun c => c.draft
  rw [hdraft] at hcollect
  exact hcollect

/-! ## The walk -/

/-- The problems of a visited type once there is an object class. -/
def visitProblems (r : Reader) (t : DeclaredType) (isRoot : Bool) : List Diagnostic :=
  t.markers.flatMap (t.headProblems true) ++ t.looseMarkers.flatMap t.looseProblems ++
    (t.prefixProblems (Field.lastPrefix? isRoot t.fields) ++ t.members.flatMap (r.memberProblems t))

theorem collectProblems_of_isSome (r : Reader) (t : DeclaredType) (isRoot : Bool) {d : Draft}
    (h : d.objectClass.isSome = true) : r.collectProblems t isRoot d = r.visitProblems t isRoot := by
  rw [collectProblems, r.declared_of_isSome t t.markers h, if_pos h, h, Bool.true_or, visitProblems]

/-- The problems of a step of the walk. -/
def stepProblems (r : Reader) (rootName : String) : Ancestry.Step → List Diagnostic
  | .visit t => r.visitProblems t (t.name = rootName)
  | .unknown name owner => [⟨.unresolvedType, .error, Ancestry.missing name owner, []⟩]
  | .failed name owner f => [⟨.sourceFailure, .error, Ancestry.missing name owner, [f.message]⟩]

/-- The draft after types have been collected, one after another. Those with the name of the root
count as the root. -/
def collectedAll (r : Reader) (rootName : String) (d : Draft) (types : List DeclaredType) : Draft :=
  types.foldl (fun d t => r.collected t (t.name = rootName) d) d

theorem collectedAll_append (r : Reader) (rootName : String) (d : Draft)
    (types more : List DeclaredType) :
    r.collectedAll rootName d (types ++ more) =
      r.collectedAll rootName (r.collectedAll rootName d types) more := List.foldl_append

theorem isSome_collectedAll (r : Reader) (rootName : String) {d : Draft}
    (hd : d.objectClass.isSome = true) (types : List DeclaredType) :
    (r.collectedAll rootName d types).objectClass.isSome = true := by
  induction types generalizing d with
  | nil => exact hd
  | cons t rest ih => exact ih (r.isSome_collected t _ hd)

theorem yields_takeStep (r : Reader) (rootName : String) {d : Draft}
    (hd : d.objectClass.isSome = true) (s : Ancestry.Step) :
    Yields (r.takeStep rootName d s) (r.collectedAll rootName d s.visited?.toList)
      (r.stepProblems rootName s) := by
  cases s with
  | visit t =>
    have hcollect := r.yields_collect (t.name = rootName) d t
    rwa [r.collectProblems_of_isSome t _ hd] at hcollect
  | unknown name owner => exact (yields_error _ _).then_pure d
  | failed name owner f => exact (yields_failure _ _ _).then_pure d

theorem yields_takeSteps (r : Reader) (rootName : String) {d : Draft}
    (hd : d.objectClass.isSome = true) (steps : List Ancestry.Step) :
    Yields (steps.foldlM (r.takeStep rootName) d)
      (r.collectedAll rootName d (steps.filterMap Ancestry.Step.visited?))
      (steps.flatMap (r.stepProblems rootName)) := by
  have hvisited : steps.foldl (fun d s => r.collectedAll rootName d s.visited?.toList) d =
      r.collectedAll rootName d (steps.filterMap Ancestry.Step.visited?) := by
    clear hd
    induction steps generalizing d with
    | nil => rfl
    | cons s rest ih => rw [List.foldl_cons, ih, filterMap_cons_toList, collectedAll_append]
  rw [← hvisited]
  exact yields_foldlM_of_invariant (fun d => d.objectClass.isSome = true)
    (fun d s hd => r.yields_takeStep rootName hd s)
    (fun d s hd => r.isSome_collectedAll rootName hd s.visited?.toList) steps hd

/-- One step of the walk accounts for the type that it visits, if it visits one. -/
theorem accounts_takeStep (r : Reader) {rootName : String} {d : Draft}
    (hd : d.objectClass.isSome = true) (s : Ancestry.Step)
    (hs : ∀ t, s = .visit t → t.name ≠ rootName) :
    r.Accounts d.keyPrefix s.visited?.toList d (r.collectedAll rootName d s.visited?.toList)
      (r.stepProblems rootName s) := by
  -- A step without a visit leaves the draft, and its report is none of the errors on members.
  have hnone : ∀ {l : List Diagnostic}, (∀ p ∈ l, p.code = .unresolvedType ∨
      p.code = .sourceFailure) → r.Accounts d.keyPrefix [] d d l := by
    intro l hl
    refine ⟨rfl, hd, by simp, filter_code_eq_nil ?_, filter_code_eq_nil ?_⟩
    all_goals
      intro p hp heq
      have hcode := hl p hp
      rw [heq] at hcode
      simp at hcode
  cases s with
  | visit t =>
    have hroot : decide (t.name = rootName) = false := decide_eq_false (hs t rfl)
    have haccounts := r.accounts_collected t false d (r.isSome_collected t false hd)
    rw [Field.lastPrefix?_false, Option.bind_none, Option.none_or,
      r.collectProblems_of_isSome t false hd, ← hroot] at haccounts
    exact haccounts
  | unknown name owner => exact hnone (by simp [stepProblems])
  | failed name owner f => exact hnone (by simp [stepProblems])

theorem accounts_takeSteps (r : Reader) {rootName : String} (steps : List Ancestry.Step)
    {d : Draft} (hd : d.objectClass.isSome = true)
    (hs : ∀ t, .visit t ∈ steps → t.name ≠ rootName) :
    r.Accounts d.keyPrefix (steps.filterMap Ancestry.Step.visited?) d
      (r.collectedAll rootName d (steps.filterMap Ancestry.Step.visited?))
      (steps.flatMap (r.stepProblems rootName)) := by
  induction steps generalizing d with
  | nil => exact ⟨rfl, hd, by simp [collectedAll], rfl, rfl⟩
  | cons s rest ih =>
    have haccounts := r.accounts_takeStep hd s fun t ht =>
      hs t (by rw [ht]; exact List.mem_cons_self)
    have haccounts' := ih haccounts.isSome fun t ht => hs t (List.mem_cons_of_mem _ ht)
    rw [haccounts.keyPrefix_eq] at haccounts'
    rw [filterMap_cons_toList, collectedAll_append, List.flatMap_cons]
    exact haccounts.append haccounts'

/-! ## An extraction -/

/-- The elements, the constructors and the members with parameters of a type are its members. -/
theorem length_members (t : DeclaredType) :
    t.elements.length + t.constructors.length + t.parameterized.length = t.members.length := by
  unfold DeclaredType.elements DeclaredType.constructors DeclaredType.parameterized Method.isElement
  induction t.members with
  | nil => rfl
  | cons m rest ih =>
    cases hconstructor : m.isConstructor <;> cases hparameters : m.parameters.isEmpty <;>
      simp only [List.filter_cons, hconstructor, hparameters, Bool.not_true, Bool.not_false,
        Bool.and_true, Bool.and_false, Bool.false_eq_true, if_true, if_false, List.length_cons] <;>
      omega

theorem Accounts.length_members {r : Reader} {keyPrefix : Option String}
    {types : List DeclaredType} {d d' : Draft} {l : List Diagnostic}
    (h : r.Accounts keyPrefix types d d' l) :
    d'.attributes.length + l.countP (·.code = .constructorFound) +
        l.countP (·.code = .parameterizedMember) =
      d.attributes.length + (types.flatMap (·.members)).length := by
  rw [List.countP_eq_length_filter, List.countP_eq_length_filter, h.attributes, h.constructors,
    h.parameterized, List.length_append, Nat.add_assoc, Nat.add_assoc]
  congr 1
  clear h
  induction types with
  | nil => rfl
  | cons t rest ih =>
    have hmembers := Reader.length_members t
    simp only [List.flatMap_cons, List.length_append, List.length_map] at ih ⊢
    omega

/-- Of a root that declares no object class no ancestor is looked at. -/
theorem yields_read_undeclared (r : Reader) {root : DeclaredType}
    (h : (r.collected root true {}).objectClass.isSome = false) :
    Yields (r.read root) none (r.collectProblems root true {}) := by
  have hnone : (r.collected root true {}).objectClass.isNone = true := by
    rw [← Option.not_isSome, h]
    rfl
  refine (r.yields_collect true {} root).bind_pure ?_
  rw [if_pos hnone]

/-- After a root that declares an object class the ancestors are collected. -/
theorem yields_read_declared (r : Reader) {root : DeclaredType}
    (h : (r.collected root true {}).objectClass.isSome = true) :
    Yields (r.read root)
      (r.collectedAll root.name (r.collected root true {})
        ((r.stepsAbove root).filterMap Ancestry.Step.visited?)).objectClass
      (r.collectProblems root true {} ++
        (r.stepsAbove root).flatMap (r.stepProblems root.name)) := by
  have hsome : ¬(r.collected root true {}).objectClass.isNone = true := by
    rw [← Option.not_isSome, h]
    simp
  refine (r.yields_collect true {} root).bind ?_
  rw [if_neg hsome]
  exact (r.yields_takeSteps root.name h (r.stepsAbove root)).map fun d => d.objectClass

/-- An object class comes from a draft that accounts for the lineage of the root. -/
theorem exists_yields_read (r : Reader) (hfaithful : r.source.IsFaithful) (root : DeclaredType) :
    ∃ result added, Yields (r.read root) result added ∧ ∀ o, result = some o →
      ∃ d : Draft, d.objectClass = some o ∧
        r.Accounts ((Field.lastPrefix? true root.fields).bind Field.keyPrefix?) (r.lineage root) {} d
          added := by
  cases hdraft : (r.collected root true {}).objectClass.isSome with
  | false => exact ⟨none, _, r.yields_read_undeclared hdraft, fun o ho => nomatch ho⟩
  | true =>
    have haccounts := r.accounts_collected root true {} hdraft
    have haccounts' := r.accounts_takeSteps (r.stepsAbove root) hdraft
      fun t ht => name_ne_of_visit hfaithful root ht
    rw [haccounts.keyPrefix_eq] at haccounts'
    refine ⟨_, _, r.yields_read_declared hdraft, fun o ho => ⟨_, ho, ?_⟩⟩
    rw [lineage_eq]
    have hall := haccounts.append haccounts'
    rwa [Option.or_none] at hall

/-- If an extraction from a root gives an object class, its attributes are those of the elements of
the types in the lineage of the root, in order. The errors for constructors and for members with
parameters are those of these types, in order too. So each member of each of these types is
accounted for once. -/
theorem accounts_read (r : Reader) (hfaithful : r.source.IsFaithful) (root : DeclaredType)
    {before after : Report} {o : ObjectClass}
    (hread : (r.read root).run before = (some o, after)) :
    let keyPrefix := (Field.lastPrefix? true root.fields).bind Field.keyPrefix?
    o.attributes = (r.lineage root).flatMap (fun t =>
        t.elements.map (r.memberAttribute t.kind t.name keyPrefix t.shorthand?)) ∧
      ∃ added, after.items = before.items ++ added ∧
        added.filter (·.code = .constructorFound) =
          (r.lineage root).flatMap (fun t => t.constructors.map t.constructorProblem) ∧
        added.filter (·.code = .parameterizedMember) =
          (r.lineage root).flatMap (fun t => t.parameterized.map t.parameterizedProblem) ∧
        o.attributes.length + added.countP (·.code = .constructorFound) +
            added.countP (·.code = .parameterizedMember) =
          ((r.lineage root).flatMap (·.members)).length := by
  intro keyPrefix
  obtain ⟨result, added, hyields, hresult⟩ := r.exists_yields_read hfaithful root
  rw [hyields before] at hread
  cases hread
  obtain ⟨d, hd, haccounts⟩ := hresult o rfl
  have hattributes : d.attributes = o.attributes := by
    simp [Draft.attributes, hd]
  have hlength := haccounts.length_members
  rw [hattributes] at hlength
  refine ⟨?_, added, rfl, haccounts.constructors, haccounts.parameterized, ?_⟩
  · rw [← hattributes, haccounts.attributes]
    rfl
  · rw [hlength]
    exact Nat.zero_add _

/-- An interface that inherits from `transport`, which leads back to it, and from `retry`, which
leads to `transport`. -/
def service : DeclaredType :=
  { name := "com.acme.Service", kind := .interfaceType
    interfaces := ["com.acme.Transport", "com.acme.Retry"]
    markers := [.objectClass {}]
    methods := [
      { name := "url", returnType := "java.lang.String" },
      { name := "<init>", isConstructor := true }] }

def transport : DeclaredType :=
  { name := "com.acme.Transport", kind := .interfaceType, interfaces := ["com.acme.Service"]
    methods := [
      { name := "open", returnType := "void", parameters := ["int"] },
      { name := "port", returnType := "int" }] }

def retry : DeclaredType :=
  { name := "com.acme.Retry", kind := .interfaceType, interfaces := ["com.acme.Transport"]
    methods := [{ name := "limit", returnType := "int" }] }

def serviceReader : Reader :=
  { source := Registry.source { types := [service, transport, retry], nodup := by decide } }

/-- Each of the three types adds its elements. The constructor and the member with a parameter are
errors. -/
theorem accounts_read_service :
    serviceReader.source.IsFaithful ∧
      ∃ o after, (serviceReader.read service).run {} = (some o, after) ∧
        o.attributes.map (·.id) = ["url", "port", "limit"] ∧
        after.items.countP (·.code = .constructorFound) = 1 ∧
        after.items.countP (·.code = .parameterizedMember) = 1 := by
  have hfaithful : serviceReader.source.IsFaithful := Registry.isFaithful_source _
  have hsteps : serviceReader.stepsAbove service = [.visit transport, .visit retry] := by
    have htransport : serviceReader.route.source.lookup "com.acme.Transport" = .found transport :=
      rfl
    have hretry : serviceReader.route.source.lookup "com.acme.Retry" = .found retry := rfl
    rw [stepsAbove, service, Ancestry.follow_descend (by decide) _ htransport rfl, transport,
      Ancestry.follow_skip (by decide), Ancestry.follow_nil,
      Ancestry.follow_descend (by decide) _ hretry rfl, retry, Ancestry.follow_skip (by decide),
      Ancestry.follow_nil, Ancestry.follow_nil]
    rfl
  have hlineage : serviceReader.lineage service = [service, transport, retry] := by
    rw [lineage_eq, hsteps]
    rfl
  have hsome : ((serviceReader.read service).run {}).1.isSome = true := by
    rw [stepsAbove] at hsteps
    simp only [read, hsteps]
    decide
  obtain ⟨⟨result, after⟩, hrun⟩ : ∃ p, (serviceReader.read service).run {} = p := ⟨_, rfl⟩
  rw [hrun] at hsome
  obtain ⟨o, rfl⟩ := Option.isSome_iff_exists.1 hsome
  obtain ⟨hattributes, added, hafter, hconstructors, hparameterized, -⟩ :=
    serviceReader.accounts_read hfaithful service hrun
  rw [hlineage] at hattributes hconstructors hparameterized
  refine ⟨hfaithful, o, after, hrun, ?_, ?_, ?_⟩
  · rw [hattributes]
    decide
  · rw [hafter, List.countP_append, List.countP_eq_length_filter (l := added), hconstructors]
    rfl
  · rw [hafter, List.countP_append, List.countP_eq_length_filter (l := added), hparameterized]
    rfl

end Reader

end Metatype
