import Mathlib.Logic.Relation
import Metatype.CollectionLike
import Metatype.Registry

/-!
# The search for the collection family

The search for a collection interface looks at each name once, in the mode in which it meets the
name first. Here it is compared with chains of declared ancestors.

* `CollectionLike.exists_met_of_search`: what is found has every property that the search hands on
  to ancestors.
* `CollectionLike.closedWhere_of_search`: after a search that finds nothing, all ancestors of what
  it has gone through have been visited, if it goes on wherever it should.
* `CollectionLike.leads_of_search`, `CollectionLike.exhausted_of_search`: both for chains, and the
  second one if the mode makes no difference.
* `CollectionLike.isCollectionLike_iff_exists_chain`: a name is that of a collection exactly if it
  is one of the platform's that the source does not know, or begins a chain to a collection
  interface.
-/

namespace Metatype

namespace CollectionLike

/-! ## Chains of ancestors -/

/-- The type found for the child declares the parent as an interface or as its superclass. -/
def Declares (s : Source) (child parent : String) : Prop :=
  ∃ t, s.lookup child = .found t ∧ (parent ∈ t.interfaces ∨ t.superclass = some parent)

/-- Interfaces, and types with a public constructor. -/
def IsPassable (t : DeclaredType) : Prop := t.isInterface = true ∨ t.hasPublicConstructor = true

/-- A step of a chain: from a type to an ancestor that it declares, if it is found and passable. -/
def Climbs (s : Source) (child parent : String) : Prop :=
  Declares s child parent ∧ ∃ t, s.lookup parent = .found t ∧ IsPassable t

/-- The type found for the name declares an interface of the collection family. -/
def MeetsFamily (s : Source) (name : String) : Prop :=
  ∃ t, s.lookup name = .found t ∧ ∃ i ∈ t.interfaces, i ∈ family

/-- An interface has no public constructor and is no superclass. -/
structure KeepsInterfacesApart (s : Source) : Prop where
  no_constructor : ∀ {name t}, s.lookup name = .found t → t.isInterface = true →
    t.hasPublicConstructor = false
  no_superclass : ∀ {name t parent u}, s.lookup name = .found t → t.superclass = some parent →
    s.lookup parent = .found u → u.isInterface = false

/-! ## Declared ancestors -/

theorem mem_ancestors {t : DeclaredType} {a : Ancestor} :
    a ∈ ancestors t ↔
      (∃ i ∈ t.interfaces, a = .interface i) ∨ ∃ p, t.superclass = some p ∧ a = .superclass p := by
  unfold ancestors
  rw [List.mem_append, List.mem_map, Option.mem_toList, Option.map_eq_some_iff]
  simp only [eq_comm (b := a)]

theorem declares_of_mem_ancestors {s : Source} {child : String} {t : DeclaredType} {a : Ancestor}
    (hf : s.lookup child = .found t) (ha : a ∈ ancestors t) : Declares s child a.name := by
  rcases mem_ancestors.1 ha with ⟨i, hi, rfl⟩ | ⟨p, hp, rfl⟩
  · exact ⟨t, hf, Or.inl hi⟩
  · exact ⟨t, hf, Or.inr hp⟩

theorem exists_mem_ancestors {s : Source} {child parent : String} {t : DeclaredType}
    (hf : s.lookup child = .found t) (h : Declares s child parent) :
    ∃ a ∈ ancestors t, a.name = parent := by
  obtain ⟨t', hf', hparent⟩ := h
  rw [hf] at hf'
  cases hf'
  rcases hparent with hi | hp
  · exact ⟨.interface parent, mem_ancestors.2 (Or.inl ⟨parent, hi, rfl⟩), rfl⟩
  · exact ⟨.superclass parent, mem_ancestors.2 (Or.inr ⟨parent, hp, rfl⟩), rfl⟩

theorem isPassable_of_admits {a : Ancestor} {t : DeclaredType} (h : a.admits t = true) :
    IsPassable t := by
  cases a with
  | interface name =>
    have hxor : (t.isInterface ^^ t.hasPublicConstructor) = true := h
    unfold IsPassable
    cases hi : t.isInterface with
    | true => exact Or.inl rfl
    | false =>
      rw [hi, Bool.false_xor] at hxor
      exact Or.inr hxor
  | superclass name => exact Or.inr h

/-- With interfaces kept apart, the search goes on from a declared ancestor in either mode. -/
theorem admits_of_isPassable {s : Source} (hs : KeepsInterfacesApart s) {child : String}
    {t u : DeclaredType} {a : Ancestor} (hf : s.lookup child = .found t) (ha : a ∈ ancestors t)
    (hu : s.lookup a.name = .found u) (h : IsPassable u) : a.admits u = true := by
  rcases mem_ancestors.1 ha with ⟨i, -, rfl⟩ | ⟨p, hp, rfl⟩
  · cases hi : u.isInterface with
    | true => simp [Ancestor.admits, hi, hs.no_constructor hu hi]
    | false =>
      have hconstructor : u.hasPublicConstructor = true := h.resolve_left (by simp [hi])
      simp [Ancestor.admits, hi, hconstructor]
  · have hi : u.isInterface = false := hs.no_superclass hf hp hu
    exact h.resolve_left (by simp [hi])

/-! ## Steps of the search -/

variable {s : Source} {a : Ancestor} {visited : List String}

theorem search_family (h : a.inFamily = true) (rest : List Ancestor) (visited : List String) :
    search s (a :: rest) visited = (true, visited) := by
  rw [search_cons, if_pos h]

theorem search_skip (ha : ¬a.inFamily = true) (hv : a.name ∈ visited) (rest : List Ancestor) :
    search s (a :: rest) visited = search s rest visited := by
  rw [search_cons, if_neg ha, if_pos hv]

theorem search_pass (ha : ¬a.inFamily = true) (hv : a.name ∉ visited) (rest : List Ancestor)
    (hstop : ∀ t, s.lookup a.name = .found t → a.admits t = false) :
    search s (a :: rest) visited = search s rest (a.name :: visited) := by
  rw [search_cons, if_neg ha, if_neg hv]
  split
  · rename_i t hf
    rw [hstop t hf]
    rfl
  · rfl

theorem search_descend (ha : ¬a.inFamily = true) (hv : a.name ∉ visited) (rest : List Ancestor)
    {t : DeclaredType} (hf : s.lookup a.name = .found t) (hadmits : a.admits t = true) :
    search s (a :: rest) visited =
      if (search s (ancestors t) (a.name :: visited)).1 then
        search s (ancestors t) (a.name :: visited)
      else search s rest (search s (ancestors t) (a.name :: visited)).2 := by
  rw [search_cons, if_neg ha, if_neg hv, hf]
  dsimp only
  rw [if_pos hadmits]

/-- Induction along the search: an ancestor is of the family, left out, passed, or gone on from. -/
theorem search_induction (s : Source) {P : List Ancestor → List String → Prop}
    (nil : ∀ visited, P [] visited)
    (family : ∀ a rest visited, a.inFamily = true → P (a :: rest) visited)
    (skip : ∀ a rest visited, ¬a.inFamily = true → a.name ∈ visited → P rest visited →
      P (a :: rest) visited)
    (pass : ∀ a rest visited, ¬a.inFamily = true → a.name ∉ visited →
      (∀ t, s.lookup a.name = .found t → a.admits t = false) → P rest (a.name :: visited) →
      P (a :: rest) visited)
    (descend : ∀ a rest visited t, ¬a.inFamily = true → a.name ∉ visited →
      s.lookup a.name = .found t → a.admits t = true → P (ancestors t) (a.name :: visited) →
      (¬(search s (ancestors t) (a.name :: visited)).1 = true →
        P rest (search s (ancestors t) (a.name :: visited)).2) →
      P (a :: rest) visited)
    (todo : List Ancestor) (visited : List String) : P todo visited := by
  induction todo, visited using searchAll.induct (s := s) with
  | case1 visited => exact nil visited
  | case2 visited a rest ha => exact family a rest visited ha
  | case3 visited a rest ha hv ih => exact skip a rest visited ha hv ih
  | case4 visited a rest ha hv t hf hadmits below hbelow ih =>
    exact descend a rest visited t ha hv hf hadmits ih fun h => absurd hbelow h
  | case5 visited a rest ha hv t hf hadmits below hbelow ih ihAfter _ =>
    exact descend a rest visited t ha hv hf hadmits ih fun _ => ihAfter
  | case6 visited a rest ha hv t hf hadmits ih =>
    refine pass a rest visited ha hv (fun t' hf' => ?_) ih
    rw [hf] at hf'
    cases hf'
    simpa using hadmits
  | case7 visited a rest ha hv hf ih =>
    exact pass a rest visited ha hv (fun t hf' => (hf t hf').elim) ih

/-! ## What is found -/

/-- What holds of an ancestor holds of the ancestors of its type, if the search goes on from it. -/
def HandedOn (s : Source) (Met : Ancestor → Prop) : Prop :=
  ∀ a t, Met a → s.lookup a.name = .found t → a.admits t = true → ∀ b ∈ ancestors t, Met b

/-- What is found is an ancestor with every property that the search hands on. -/
theorem exists_met_of_search {Met : Ancestor → Prop} (hon : HandedOn s Met)
    (todo : List Ancestor) (visited : List String) (htodo : ∀ a ∈ todo, Met a)
    (h : (search s todo visited).1 = true) : ∃ a, Met a ∧ a.inFamily = true := by
  induction todo, visited using search_induction s with
  | nil visited => simp [search_nil] at h
  | family a rest visited ha => exact ⟨a, htodo a List.mem_cons_self, ha⟩
  | skip a rest visited ha hv ih =>
    rw [search_skip ha hv] at h
    exact ih (fun b hb => htodo b (List.mem_cons_of_mem _ hb)) h
  | pass a rest visited ha hv hstop ih =>
    rw [search_pass ha hv rest hstop] at h
    exact ih (fun b hb => htodo b (List.mem_cons_of_mem _ hb)) h
  | descend a rest visited t ha hv hf hadmits ih ihAfter =>
    rw [search_descend ha hv rest hf hadmits] at h
    split at h
    · rename_i hbelow
      exact ih (hon a t (htodo a List.mem_cons_self) hf hadmits) hbelow
    · rename_i hbelow
      exact ihAfter hbelow (fun b hb => htodo b (List.mem_cons_of_mem _ hb)) h

/-- The ancestor is of the family, or it is found and passable and begins a chain to the family. -/
def Leads (s : Source) (a : Ancestor) : Prop :=
  a.inFamily = true ∨
    (∃ t, s.lookup a.name = .found t ∧ IsPassable t) ∧
      ∃ last, Relation.ReflTransGen (Climbs s) a.name last ∧ MeetsFamily s last

/-- From a type with an ancestor that leads to the family, a chain leads there. -/
theorem exists_chain_of_leads {child : String} {t : DeclaredType}
    (hf : s.lookup child = .found t) (ha : a ∈ ancestors t) (h : Leads s a) :
    ∃ last, Relation.ReflTransGen (Climbs s) child last ∧ MeetsFamily s last := by
  rcases h with hfamily | ⟨hpassable, last, hchain, hlast⟩
  · rcases mem_ancestors.1 ha with ⟨i, hi, rfl⟩ | ⟨p, hp, rfl⟩
    · have hmem : i ∈ family := by simpa [Ancestor.inFamily] using hfamily
      exact ⟨child, .refl, t, hf, i, hi, hmem⟩
    · simp [Ancestor.inFamily] at hfamily
  · have hstep : Climbs s child a.name := ⟨declares_of_mem_ancestors hf ha, hpassable⟩
    exact ⟨last, hchain.head hstep, hlast⟩

theorem leads_of_search (s : Source) (todo : List Ancestor) (visited : List String)
    (h : (search s todo visited).1 = true) : ∃ a ∈ todo, Leads s a := by
  have hon : HandedOn s fun b => Leads s b → ∃ a ∈ todo, Leads s a := by
    intro a t ha hf hadmits b hb hleads
    exact ha (Or.inr ⟨⟨t, hf, isPassable_of_admits hadmits⟩, exists_chain_of_leads hf hb hleads⟩)
  obtain ⟨a, ha, hfamily⟩ := exists_met_of_search hon todo visited (fun a ha h => ⟨a, ha, h⟩) h
  exact ha (Or.inl hfamily)

/-! ## What is gone through -/

/-- No ancestor is of the family, and all have been visited. -/
def Exhausted (visited : List String) (ancestors : List Ancestor) : Prop :=
  ∀ a ∈ ancestors, ¬a.inFamily = true ∧ a.name ∈ visited

theorem Exhausted.mono {visited after : List String} {todo : List Ancestor}
    (h : Exhausted visited todo) (hsub : visited ⊆ after) : Exhausted after todo :=
  fun a ha => ⟨(h a ha).1, hsub (h a ha).2⟩

theorem Exhausted.cons {rest : List Ancestor} (ha : ¬a.inFamily = true) (hv : a.name ∈ visited)
    (h : Exhausted visited rest) : Exhausted visited (a :: rest) := by
  intro b hb
  rcases List.mem_cons.1 hb with rfl | hb
  · exact ⟨ha, hv⟩
  · exact h b hb

/-- Names visited on the way are closed: where the search should go on from the type found for one,
its ancestors are exhausted in the end. -/
def ClosedWhere (s : Source) (goesOn : String → DeclaredType → Prop)
    (before after : List String) : Prop :=
  ∀ name ∈ after, name ∉ before → ∀ t, s.lookup name = .found t → goesOn name t →
    Exhausted after (ancestors t)

section

variable {goesOn : String → DeclaredType → Prop}

theorem ClosedWhere.trans {before between after : List String}
    (h : ClosedWhere s goesOn before between) (h' : ClosedWhere s goesOn between after)
    (hsub : between ⊆ after) : ClosedWhere s goesOn before after := by
  intro name hname hnew t hf ht
  by_cases hbetween : name ∈ between
  · exact (h name hbetween hnew t hf ht).mono hsub
  · exact h' name hname hbetween t hf ht

/-- If a name that is no longer in progress is itself closed, so is all since before it. -/
theorem ClosedWhere.of_cons {name : String} {before after : List String}
    (h : ClosedWhere s goesOn (name :: before) after)
    (hname : ∀ t, s.lookup name = .found t → goesOn name t → Exhausted after (ancestors t)) :
    ClosedWhere s goesOn before after := by
  intro other hother hnew t hf ht
  by_cases heq : other = name
  · subst heq
    exact hname t hf ht
  · exact h other hother (by simp [heq, hnew]) t hf ht

/-- A search that finds nothing exhausts its ancestors and closes what it visits, if it goes on from
every ancestor that it meets where it should. Names in progress, which were visited before, may
still have open ancestors. -/
theorem closedWhere_of_search {Met : Ancestor → Prop} (hon : HandedOn s Met)
    (hmode : ∀ a t, Met a → s.lookup a.name = .found t → goesOn a.name t → a.admits t = true)
    (todo : List Ancestor) (visited : List String) (htodo : ∀ a ∈ todo, Met a)
    (h : ¬(search s todo visited).1 = true) :
    Exhausted (search s todo visited).2 todo ∧
      ClosedWhere s goesOn visited (search s todo visited).2 := by
  induction todo, visited using search_induction s with
  | nil visited =>
    rw [search_nil]
    exact ⟨by simp [Exhausted], fun name hname hnew => absurd hname hnew⟩
  | family a rest visited ha =>
    rw [search_family ha] at h
    exact absurd rfl h
  | skip a rest visited ha hv ih =>
    rw [search_skip ha hv] at h ⊢
    obtain ⟨hrest, hclosed⟩ := ih (fun b hb => htodo b (List.mem_cons_of_mem _ hb)) h
    exact ⟨hrest.cons ha (visited_subset_search s rest visited hv), hclosed⟩
  | pass a rest visited ha hv hstop ih =>
    rw [search_pass ha hv rest hstop] at h ⊢
    obtain ⟨hrest, hclosed⟩ := ih (fun b hb => htodo b (List.mem_cons_of_mem _ hb)) h
    refine ⟨hrest.cons ha (visited_subset_search s rest _ List.mem_cons_self),
      hclosed.of_cons fun t hf ht => ?_⟩
    have hadmits := hmode a t (htodo a List.mem_cons_self) hf ht
    rw [hstop t hf] at hadmits
    cases hadmits
  | descend a rest visited t ha hv hf hadmits ih ihAfter =>
    rw [search_descend ha hv rest hf hadmits] at h ⊢
    split at h
    · rename_i hbelow
      exact absurd hbelow h
    · rename_i hbelow
      rw [if_neg hbelow]
      obtain ⟨hancestors, hbetween⟩ :=
        ih (hon a t (htodo a List.mem_cons_self) hf hadmits) hbelow
      obtain ⟨hrest, hclosed⟩ := ihAfter hbelow (fun b hb => htodo b (List.mem_cons_of_mem _ hb)) h
      have hsub := visited_subset_search s rest
        (search s (ancestors t) (a.name :: visited)).2
      have hself := visited_subset_search s (ancestors t) (a.name :: visited) List.mem_cons_self
      refine ⟨hrest.cons ha (hsub hself), (hbetween.trans hclosed hsub).of_cons fun u hu _ => ?_⟩
      rw [hf] at hu
      cases hu
      exact hancestors.mono hsub

end

/-- Names visited on the way are closed where a passable type is found. -/
def ClosedSince (s : Source) (before after : List String) : Prop :=
  ∀ name ∈ after, name ∉ before → ∀ t, s.lookup name = .found t → IsPassable t →
    Exhausted after (ancestors t)

/-- With interfaces kept apart, the search goes on from every passable type. -/
theorem exhausted_of_search (hs : KeepsInterfacesApart s) (todo : List Ancestor)
    (visited : List String)
    (htodo : ∀ a ∈ todo, ∃ child t, s.lookup child = .found t ∧ a ∈ ancestors t)
    (h : ¬(search s todo visited).1 = true) :
    Exhausted (search s todo visited).2 todo ∧
      ClosedSince s visited (search s todo visited).2 := by
  have hon : HandedOn s fun a => ∃ child t, s.lookup child = .found t ∧ a ∈ ancestors t :=
    fun a t _ hf _ b hb => ⟨a.name, t, hf, hb⟩
  refine closedWhere_of_search hon ?_ todo visited htodo h
  rintro a t ⟨child, u, hu, hmem⟩ hf hpassable
  exact admits_of_isPassable hs hu hmem hf hpassable

/-! ## The decision -/

/-- Along a chain from a name whose ancestors are exhausted, all is exhausted. -/
theorem exhausted_of_chain {name last : String} {after : List String}
    (hself : name ∈ after)
    (hstart : ∀ t, s.lookup name = .found t → Exhausted after (ancestors t))
    (hclosed : ClosedSince s [name] after) (hchain : Relation.ReflTransGen (Climbs s) name last) :
    last ∈ after ∧ ∀ t, s.lookup last = .found t → Exhausted after (ancestors t) := by
  induction hchain with
  | refl => exact ⟨hself, hstart⟩
  | @tail child parent _ hstep ih =>
    obtain ⟨⟨t, hf, hparent⟩, u, hu, hpassable⟩ := hstep
    obtain ⟨a, ha, rfl⟩ := exists_mem_ancestors hf ⟨t, hf, hparent⟩
    have hvisited : a.name ∈ after := (ih.2 t hf a ha).2
    refine ⟨hvisited, fun u' hu' => ?_⟩
    rw [hu] at hu'
    cases hu'
    by_cases heq : a.name = name
    · exact hstart u (by rw [← heq]; exact hu)
    · exact hclosed a.name hvisited (by simpa using heq) u hu hpassable

theorem not_meetsFamily_of_exhausted {last : String} {after : List String}
    (h : ∀ t, s.lookup last = .found t → Exhausted after (ancestors t)) : ¬MeetsFamily s last := by
  rintro ⟨t, hf, i, hi, hfamily⟩
  have hmem : Ancestor.interface i ∈ ancestors t := mem_ancestors.2 (Or.inl ⟨i, hi, rfl⟩)
  exact (h t hf _ hmem).1 (by simpa [Ancestor.inFamily] using hfamily)

/-- The search from a type finds the family exactly if a chain leads there. -/
theorem search_iff_exists_chain (hs : KeepsInterfacesApart s) {name : String} {t : DeclaredType}
    (hf : s.lookup name = .found t) :
    (search s (ancestors t) [name]).1 = true ↔
      ∃ last, Relation.ReflTransGen (Climbs s) name last ∧ MeetsFamily s last := by
  constructor
  · intro h
    obtain ⟨a, ha, hleads⟩ := leads_of_search s _ _ h
    exact exists_chain_of_leads hf ha hleads
  · rintro ⟨last, hchain, hlast⟩
    refine Decidable.byContradiction fun h => ?_
    obtain ⟨hancestors, hclosed⟩ :=
      exhausted_of_search hs (ancestors t) [name] (fun a ha => ⟨name, t, hf, ha⟩) h
    have hself := visited_subset_search s (ancestors t) [name] List.mem_cons_self
    have hstart : ∀ u, s.lookup name = .found u →
        Exhausted (search s (ancestors t) [name]).2 (ancestors u) := by
      intro u hu
      rw [hf] at hu
      cases hu
      exact hancestors
    exact not_meetsFamily_of_exhausted (exhausted_of_chain hself hstart hclosed hchain).2 hlast

/-- Under a source that keeps interfaces apart, a name is that of a collection exactly if the source
does not know it and it is one of the platform's collections, or the type found for it is concrete
and has a public constructor, and a chain of passable ancestors leads from it to a type that
declares an interface of the collection family. -/
theorem isCollectionLike_iff_exists_chain (hs : KeepsInterfacesApart s) (name : String) :
    isCollectionLike s name = true ↔
      (s.lookup name = .unknown ∧ name ∈ platform) ∨
        ∃ t last, s.lookup name = .found t ∧ t.isAbstract = false ∧
          t.hasPublicConstructor = true ∧ Relation.ReflTransGen (Climbs s) name last ∧
          MeetsFamily s last := by
  unfold isCollectionLike
  cases hf : s.lookup name with
  | found t =>
    simp only [Bool.and_eq_true, Bool.not_eq_true', search_iff_exists_chain hs hf, and_assoc]
    constructor
    · rintro ⟨hconcrete, hconstructor, last, hchain, hlast⟩
      exact Or.inr ⟨t, last, rfl, hconcrete, hconstructor, hchain, hlast⟩
    · rintro (⟨hunknown, -⟩ | ⟨u, last, hu, hconcrete, hconstructor, hchain, hlast⟩)
      · cases hunknown
      · cases hu
        exact ⟨hconcrete, hconstructor, last, hchain, hlast⟩
  | unknown => simp
  | failed f => simp

/-! ## Registries -/

theorem keepsInterfacesApart_source {r : Registry}
    (hconstructor : ∀ t ∈ r.types, t.isInterface = true → t.hasPublicConstructor = false)
    (hsuperclass : ∀ t ∈ r.types, ∀ u ∈ r.types, t.superclass = some u.name →
      u.isInterface = false) : KeepsInterfacesApart r.source where
  no_constructor hf := hconstructor _ (List.mem_of_find?_eq_some (Registry.find?_of_lookup hf))
  no_superclass := by
    intro name t parent u hf hparent hu
    have ht := List.mem_of_find?_eq_some (Registry.find?_of_lookup hf)
    have hmem := List.mem_of_find?_eq_some (Registry.find?_of_lookup hu)
    have hname : u.name = parent := Registry.name_of_find? (Registry.find?_of_lookup hu)
    exact hsuperclass t ht u hmem (by rw [hname]; exact hparent)

/-- A class whose superclass implements `bag`, which leads to `pile` and back. -/
def ring : DeclaredType :=
  { name := "com.acme.Ring", superclass := some "com.acme.Base", hasPublicConstructor := true }

def base : DeclaredType :=
  { name := "com.acme.Base", interfaces := ["com.acme.Bag"], hasPublicConstructor := true
    declaredAbstract := true }

def bag : DeclaredType :=
  { name := "com.acme.Bag", kind := .interfaceType, interfaces := ["com.acme.Pile"] }

def pile : DeclaredType :=
  { name := "com.acme.Pile", kind := .interfaceType
    interfaces := ["com.acme.Bag", "java.util.Collection"] }

def rings : Registry := { types := [ring, base, bag, pile], nodup := by decide }

/-- The chain from `ring` goes over its superclass to the interfaces that lead in a circle. -/
theorem isCollectionLike_iff_exists_chain_ring :
    KeepsInterfacesApart rings.source ∧ isCollectionLike rings.source "com.acme.Ring" = true := by
  have hs : KeepsInterfacesApart rings.source :=
    keepsInterfacesApart_source (by decide) (by decide)
  have hring : rings.source.lookup "com.acme.Ring" = .found ring := rfl
  have hbase : rings.source.lookup "com.acme.Base" = .found base := rfl
  have hbag : rings.source.lookup "com.acme.Bag" = .found bag := rfl
  have hpile : rings.source.lookup "com.acme.Pile" = .found pile := rfl
  have hchain : Relation.ReflTransGen (Climbs rings.source) "com.acme.Ring" "com.acme.Pile" := by
    have htoBase : Climbs rings.source "com.acme.Ring" "com.acme.Base" :=
      ⟨⟨ring, hring, Or.inr rfl⟩, base, hbase, Or.inr rfl⟩
    have htoBag : Climbs rings.source "com.acme.Base" "com.acme.Bag" :=
      ⟨⟨base, hbase, Or.inl (by decide)⟩, bag, hbag, Or.inl rfl⟩
    have htoPile : Climbs rings.source "com.acme.Bag" "com.acme.Pile" :=
      ⟨⟨bag, hbag, Or.inl (by decide)⟩, pile, hpile, Or.inl rfl⟩
    exact ((Relation.ReflTransGen.single htoBase).tail htoBag).tail htoPile
  have hfamily : MeetsFamily rings.source "com.acme.Pile" :=
    ⟨pile, hpile, "java.util.Collection", by decide, by decide⟩
  exact ⟨hs, (isCollectionLike_iff_exists_chain hs "com.acme.Ring").2
    (Or.inr ⟨ring, "com.acme.Pile", hring, rfl, rfl, hchain, hfamily⟩)⟩

end CollectionLike

end Metatype
