import Mathlib.Data.Set.Basic
import Metatype.Proofs.FailingLookup

/-!
# The names an extraction asks for

An extraction asks its source for the interfaces on the way up from its root, for what the return
types of elements lead to, and, to tell collections, for the ancestors of these. A set of names that
holds all of that for the types found under it holds every name that is asked for: sources that
agree on it cannot be told apart.

* `CollectionLike.isCollectionLike_of_agreesOn`: whether a name is that of a collection.
* `Ancestry.follow_of_agreesOn`, `Ancestry.found_of_mem_follow`: the walk stays among the names.
* `Reader.agreesOnMember_of_agreesOn`: an element is taken for the same.
* `Reader.outcome_of_agreesOn`, `Reader.problems_of_agreesOn`: so is a root.
* `Reader.read_enclosed`: an extraction does not depend on other types.
-/

namespace Metatype

open Reporting

/-- Another source gives the same answers to some names. -/
def Source.AgreesOn (s s' : Source) (names : Set String) : Prop :=
  ∀ name ∈ names, s'.lookup name = s.lookup name

/-! ## The search for collections -/

namespace CollectionLike

/-- The names hold the ancestors of the types that are found under them. -/
def HoldsAncestors (s : Source) (names : Set String) : Prop :=
  ∀ known ∈ names, ∀ t, s.lookup known = .found t → ∀ a ∈ ancestors t, a.name ∈ names

variable {s s' : Source} {names : Set String} (h : s.AgreesOn s' names)
  (hnames : HoldsAncestors s names)

include h hnames

theorem search_of_agreesOn (todo : List Ancestor) (visited : List String)
    (htodo : ∀ a ∈ todo, a.name ∈ names) : search s' todo visited = search s todo visited := by
  -- By the cases of the search for the first source: all it comes to is among the names.
  induction todo, visited using search_induction s with
  | nil visited => rw [search_nil, search_nil]
  | family a rest visited ha => rw [search_family ha, search_family ha]
  | skip a rest visited ha hv ih =>
    rw [search_skip ha hv, search_skip ha hv, ih fun b hb => htodo b (List.mem_cons_of_mem _ hb)]
  | pass a rest visited ha hv hstop ih =>
    have hlookup := h a.name (htodo a List.mem_cons_self)
    have hstop' : ∀ t, s'.lookup a.name = .found t → a.admits t = false :=
      fun t hf => hstop t (hlookup ▸ hf)
    rw [search_pass ha hv rest hstop, search_pass ha hv rest hstop',
      ih fun b hb => htodo b (List.mem_cons_of_mem _ hb)]
  | descend a rest visited t ha hv hf hadmits ihBelow ihAfter =>
    have hself := htodo a List.mem_cons_self
    have hf' : s'.lookup a.name = .found t := (h a.name hself).trans hf
    rw [search_descend ha hv rest hf hadmits, search_descend ha hv rest hf' hadmits,
      ihBelow (hnames a.name hself t hf)]
    split
    · rfl
    · rename_i hnone
      exact ihAfter hnone fun b hb => htodo b (List.mem_cons_of_mem _ hb)

theorem isCollectionLike_of_agreesOn {name : String} (hname : name ∈ names) :
    isCollectionLike s' name = isCollectionLike s name := by
  unfold isCollectionLike
  rw [h name hname]
  cases hf : s.lookup name with
  | found t => simp only [search_of_agreesOn h hnames _ _ (hnames name hname t hf)]
  | unknown => rfl
  | failed f => rfl

end CollectionLike

/-! ## The walk -/

namespace Ancestry

variable {r : Reader} {s : Source} {names : Set String}

/-- The names hold the interfaces outside of the platform of the types that are found under them. -/
def HoldsInterfaces (r : Reader) (names : Set String) : Prop :=
  ∀ known ∈ names, ∀ t, r.source.lookup known = .found t →
    ∀ name ∈ t.interfaces, ¬TypeName.isPlatform r.platform name → name ∈ names

theorem follow_of_agreesOn (h : r.source.AgreesOn s names) (hnames : HoldsInterfaces r names)
    (owner : String) (todo visited : List String)
    (htodo : ∀ name ∈ todo, ¬TypeName.isPlatform r.platform name → name ∈ names) :
    follow (r.withSource s).route owner todo visited = follow r.route owner todo visited := by
  induction owner, todo, visited using follow_induction r.route with
  | nil owner visited => rw [follow_nil, follow_nil]
  | skip owner name rest visited hskip ih =>
    rw [follow_skip hskip, follow_skip (r := (r.withSource s).route) hskip]
    exact ih fun other hother => htodo other (List.mem_cons_of_mem _ hother)
  | pass owner name rest visited hpass hstop ih =>
    have hlookup : (r.withSource s).route.source.lookup name = r.route.source.lookup name :=
      h name (htodo name List.mem_cons_self (not_or.1 hpass).1)
    have hstop' : ∀ t, (r.withSource s).route.source.lookup name = .found t →
        (r.withSource s).route.goOn t = false := fun t hf => hstop t (hlookup ▸ hf)
    have hanswer : Mention.answer (r.withSource s).route.source ⟨owner, name⟩ =
        Mention.answer r.route.source ⟨owner, name⟩ := by
      unfold Mention.answer
      rw [hlookup]
    rw [follow_pass hpass rest hstop,
      follow_pass (r := (r.withSource s).route) hpass rest hstop', hanswer,
      ih fun other hother => htodo other (List.mem_cons_of_mem _ hother)]
  | descend owner name rest visited t hpass hf hgo ihAbove ihAfter =>
    have hself := htodo name List.mem_cons_self (not_or.1 hpass).1
    have hf' : (r.withSource s).route.source.lookup name = .found t := (h name hself).trans hf
    rw [follow_descend hpass rest hf hgo,
      follow_descend (r := (r.withSource s).route) hpass rest hf' rfl,
      ihAbove (hnames name hself t hf),
      ihAfter fun other hother => htodo other (List.mem_cons_of_mem _ hother)]

end Ancestry

/-! ## Elements -/

namespace Reader

/-- The names that the return type of a member leads to: the one before its type arguments, that of
the element type it is mapped to, and its own without array marks and type arguments. -/
def returnNames (r : Reader) (owner : String) (m : Method) : List String :=
  ((TypeMapping.genericName? m.returnType.toList).map String.ofList).toList ++
    [(r.mapped owner m).element, m.elementType]

theorem elementType_of_lookup {r : Reader} {s : Source} {name : String}
    (h : s.lookup name = r.source.lookup name) :
    (r.withSource s).elementType name = r.elementType name := by
  have haccepts : (r.withSource s).acceptsAsString name = r.acceptsAsString name := by
    unfold acceptsAsString
    rw [source_withSource, h]
    rfl
  unfold elementType
  rw [haccepts]

section

variable {r : Reader} {s : Source} {names : Set String} (h : r.source.AgreesOn s names)

include h

theorem mapType_of_agreesOn (hnames : CollectionLike.HoldsAncestors r.source names)
    {owner : String} {m : Method} (hm : ∀ name ∈ r.returnNames owner m, name ∈ names) :
    (r.withSource s).mapType owner m.name m.returnType = r.mapType owner m.name m.returnType := by
  have hshape : TypeMapping.shape s m.returnType.toList =
      TypeMapping.shape r.source m.returnType.toList := by
    refine TypeMapping.shape_congr_of_genericName fun name hname => ?_
    refine CollectionLike.isCollectionLike_of_agreesOn h hnames (hm _ ?_)
    simp [returnNames, hname]
  have hlookup := h (r.mapped owner m).element (hm _ (by simp [returnNames]))
  rw [mapped_eq] at hlookup
  unfold mapType
  rw [source_withSource, hshape]
  simp only [elementType_of_lookup hlookup]

theorem agreesOnMember_of_agreesOn (hnames : CollectionLike.HoldsAncestors r.source names)
    {owner : String} {m : Method} (hm : ∀ name ∈ r.returnNames owner m, name ∈ names) :
    r.AgreesOnMember (r.withSource s) owner m := by
  have helement := h (r.mapped owner m).element (hm _ (by simp [returnNames]))
  have hraw := h m.elementType (hm _ (by simp [returnNames]))
  refine ⟨rfl, mapType_of_agreesOn h hnames hm, ?_, ?_, ?_, ?_⟩
  · unfold offered
    rw [source_withSource, helement]
  · unfold isNestedElement
    rw [source_withSource, hraw]
    rfl
  · unfold choiceProblems
    rw [source_withSource, helement]
  · unfold defaultProblems
    rw [source_withSource, hraw]
    rfl

end

/-! ## An extraction -/

/-- A set of names that an extraction from a root does not leave. It holds the interfaces of the
root outside of the platform, all ancestors that the types found under its names declare, and what
the return types of the elements of all these types lead to. -/
structure Encloses (r : Reader) (root : DeclaredType) (names : Set String) : Prop where
  root_interfaces : ∀ name ∈ root.interfaces, ¬TypeName.isPlatform r.platform name → name ∈ names
  root_elements : ∀ m ∈ root.elements, ∀ name ∈ r.returnNames root.name m, name ∈ names
  interfaces : ∀ known ∈ names, ∀ t, r.source.lookup known = .found t →
    ∀ name ∈ t.interfaces, name ∈ names
  superclass : ∀ known ∈ names, ∀ t, r.source.lookup known = .found t →
    ∀ name, t.superclass = some name → name ∈ names
  elements : ∀ known ∈ names, ∀ t, r.source.lookup known = .found t →
    ∀ m ∈ t.elements, ∀ name ∈ r.returnNames t.name m, name ∈ names

namespace Encloses

variable {r : Reader} {root : DeclaredType} {names : Set String} (h : r.Encloses root names)

include h

theorem holdsAncestors : CollectionLike.HoldsAncestors r.source names := by
  intro known hknown t hf a ha
  rcases CollectionLike.mem_ancestors.1 ha with ⟨i, hi, rfl⟩ | ⟨p, hp, rfl⟩
  · exact h.interfaces known hknown t hf i hi
  · exact h.superclass known hknown t hf p hp

theorem holdsInterfaces : Ancestry.HoldsInterfaces r names :=
  fun known hknown t hf name hname _ => h.interfaces known hknown t hf name hname

theorem closed : Ancestry.Closed r.route root names where
  of_root _ name hname hplatform _ := h.root_interfaces name hname hplatform
  of_found known hknown t hf _ name hname _ _ := h.interfaces known hknown t hf name hname

/-- An ancestor that is visited is found under one of the names. -/
theorem exists_found {t : DeclaredType} (ht : .visit t ∈ r.stepsAbove root) :
    ∃ name ∈ names, r.source.lookup name = .found t := by
  obtain ⟨owner, name, hname, hanswer⟩ := exists_encounter ht
  refine ⟨name, ?_, Ancestry.Mention.lookup_of_answer_visit hanswer⟩
  refine Ancestry.names_within h.closed List.mem_cons_self ?_ name hname
  intro m hm hplatform _
  obtain ⟨i, hi, rfl⟩ := List.mem_map.1 hm
  exact h.root_interfaces i hi hplatform

/-- The names hold what the elements of all visited types lead to. -/
theorem mem_of_lineage {t : DeclaredType} (ht : t ∈ r.lineage root) :
    ∀ m ∈ t.elements, ∀ name ∈ r.returnNames t.name m, name ∈ names := by
  rw [lineage_eq] at ht
  rcases List.mem_cons.1 ht with rfl | ht
  · exact h.root_elements
  · obtain ⟨step, hstep, hvisited⟩ := List.mem_filterMap.1 ht
    cases step with
    | visit u =>
      cases hvisited
      obtain ⟨known, hknown, hf⟩ := h.exists_found hstep
      exact h.elements known hknown t hf
    | unknown name owner => cases hvisited
    | failed name owner f => cases hvisited

end Encloses

section

variable {r : Reader} {root : DeclaredType} {names : Set String} {s : Source}
  (hnames : r.Encloses root names) (h : r.source.AgreesOn s names)

include hnames h

theorem stepsAbove_of_agreesOn : (r.withSource s).stepsAbove root = r.stepsAbove root := by
  rw [stepsAbove, stepsAbove, Ancestry.follow_of_agreesOn h hnames.holdsInterfaces root.name
    root.interfaces [root.name] hnames.root_interfaces]

theorem agreesOnMember_of_lineage :
    ∀ t ∈ r.lineage root, ∀ m ∈ t.elements, r.AgreesOnMember (r.withSource s) t.name m :=
  fun _ ht m hm => agreesOnMember_of_agreesOn h hnames.holdsAncestors
    (hnames.mem_of_lineage ht m hm)

theorem outcome_of_agreesOn : (r.withSource s).outcome root = r.outcome root := by
  have hlineage : (r.withSource s).lineage root = r.lineage root := by
    rw [lineage_eq, lineage_eq, stepsAbove_of_agreesOn hnames h]
  exact outcome_congr rfl hlineage rfl fun t ht m hm =>
    (agreesOnMember_of_lineage hnames h t ht m hm).onAttribute

theorem problems_of_agreesOn : (r.withSource s).problems root = r.problems root :=
  problems_congr (stepsAbove_of_agreesOn hnames h) (agreesOnMember_of_lineage hnames h)

end

/-- Sources that agree on a set of names that encloses the root give the same object class, and the
same problems are reported, however they differ on other names. -/
theorem read_enclosed (r : Reader) {root : DeclaredType} {names : Set String}
    (hnames : r.Encloses root names) {s : Source}
    (hs : ∀ name ∈ names, s.lookup name = r.source.lookup name) (before : Report) :
    ((r.withSource s).read root).run before = (r.read root).run before := by
  rw [(r.withSource s).yields_read root before, r.yields_read root before,
    outcome_of_agreesOn hnames hs, problems_of_agreesOn hnames hs]

/-- An interface with an ancestor. A bag is a collection by what it implements. -/
def bin : DeclaredType :=
  { name := "com.acme.Bin", kind := .interfaceType, interfaces := ["com.acme.Store"]
    markers := [.objectClass {}]
    methods := [{ name := "parts", returnType := "com.acme.Bag<com.acme.Part>" }] }

def binRegistry : Registry :=
  let store : DeclaredType :=
    { name := "com.acme.Store", kind := .interfaceType
      methods := [{ name := "size", returnType := "int" }] }
  let bag : DeclaredType :=
    { name := "com.acme.Bag", interfaces := ["java.util.List"], hasPublicConstructor := true }
  let part : DeclaredType :=
    { name := "com.acme.Part", kind := .enumType
      fields := [{ name := "bolt", typeName := "com.acme.Part", isEnumerator := true }] }
  { types := [store, bag, part], nodup := by decide }

def binReader : Reader := { source := binRegistry.source }

/-- The names that `bin` leads to, and the failures of a source that is out of reach for others. -/
def binNames : List String :=
  ["com.acme.Store", "com.acme.Bag", "com.acme.Part", "java.util.List", "int"]

def binOutage (name : String) : Option Failure :=
  if name ∈ binNames then none else some (.unavailable name "timeout")

theorem read_enclosed_bin :
    binReader.Encloses bin {name | name ∈ binNames} ∧
      (∀ name ∈ binNames, (binReader.source.failing binOutage).lookup name =
        binReader.source.lookup name) ∧
      ((binReader.withSource (binReader.source.failing binOutage)).read bin).run {} =
        (binReader.read bin).run {} := by
  have hbag : isCollectionLike binReader.source "com.acme.Bag" = true := by
    have hfamily := CollectionLike.search_family (s := binReader.source)
      (a := .interface "java.util.List") rfl [] ["com.acme.Bag"]
    exact congrArg Prod.fst hfamily
  have helement : TypeMapping.element? binReader.source "com.acme.Bag<com.acme.Part>".toList =
      some "com.acme.Part".toList := by
    have hgeneric : TypeMapping.generic? "com.acme.Bag<com.acme.Part>".toList =
        some ("com.acme.Bag".toList, "com.acme.Part".toList) := by decide
    rw [TypeMapping.element?, hgeneric]
    dsimp only
    rw [TypeMapping.isCollection, String.ofList_toList, hbag]
    decide
  have hparts : ∀ m ∈ bin.elements, binReader.returnNames bin.name m =
      ["com.acme.Bag", "com.acme.Part", "com.acme.Bag"] := by
    intro m hm
    rw [List.mem_singleton.1 hm, returnNames, mapped_eq]
    dsimp only
    rw [TypeMapping.shape_unmarked _ (by decide)]
    have htrim : Text.trim "com.acme.Bag<com.acme.Part>".toList =
        "com.acme.Bag<com.acme.Part>".toList := by decide
    rw [htrim, helement]
    decide
  have hfound {name : String} {t : DeclaredType} (hf : binReader.source.lookup name = .found t) :
      t ∈ binRegistry.types := List.mem_of_find?_eq_some (Registry.find?_of_lookup hf)
  have hinterfaces : ∀ t ∈ binRegistry.types, ∀ name ∈ t.interfaces, name ∈ binNames := by decide
  have hsuperclass : ∀ t ∈ binRegistry.types, t.superclass = none := by decide
  have helements : ∀ t ∈ binRegistry.types, ∀ m ∈ t.elements,
      ∀ name ∈ binReader.returnNames t.name m, name ∈ binNames := by decide
  have hencloses : binReader.Encloses bin {name | name ∈ binNames} :=
    { root_interfaces := by
        rw [bin]
        decide
      root_elements := by
        intro m hm
        rw [hparts m hm]
        decide
      interfaces := fun _ _ t hf => hinterfaces t (hfound hf)
      superclass := fun _ _ t hf name hname => by
        rw [hsuperclass t (hfound hf)] at hname
        cases hname
      elements := fun _ _ t hf => helements t (hfound hf) }
  have hagrees : ∀ name ∈ binNames, (binReader.source.failing binOutage).lookup name =
      binReader.source.lookup name := by
    intro name hname
    have hknown : binOutage name = none := if_pos hname
    simp only [Source.failing, Source.withhold, hknown, Option.elim_none]
  exact ⟨hencloses, hagrees, binReader.read_enclosed hencloses hagrees {}⟩

end Reader

end Metatype
