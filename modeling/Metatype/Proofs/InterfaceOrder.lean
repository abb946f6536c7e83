import Mathlib.Data.List.Forall2
import Metatype.Proofs.CollectionSearch

/-!
# The order of declared interfaces

Whether the search goes on from an ancestor depends on the way in which the ancestor is declared,
and the search looks at each name in one way only. So what it finds does not depend on the order in
which interfaces are declared, unless it meets an interface type both as an interface and as a
superclass. It may come to such a type as a superclass first, stop there, and leave out what it
would find from the type as an interface.

* `CollectionLike.Meets`: the ancestors that lie open to a search which leaves out no name.
* `CollectionLike.search_iff_meets`: what is found, where each interface type is met in one way.
* `Source.Reordered`: sources that differ in the order of declared interfaces.
* `CollectionLike.isCollectionLike_of_reordered`: they agree on what is a collection.
* `CollectionLike.isCollectionLike_reordered_looseLid`: they need not where an interface type is met
  in both ways.
-/

namespace Metatype

/-! ## Orders of interfaces -/

/-- The same answer, up to the order of the interfaces of the type found. -/
inductive Lookup.Reordered : Lookup → Lookup → Prop
  | found (t : DeclaredType) {interfaces : List String} (h : interfaces.Perm t.interfaces) :
    Reordered (.found t) (.found { t with interfaces })
  | unknown : Reordered .unknown .unknown
  | failed (f : Failure) : Reordered (.failed f) (.failed f)

/-- Sources that answer every name up to the order of interfaces. -/
def Source.Reordered (s s' : Source) : Prop := ∀ name, (s.lookup name).Reordered (s'.lookup name)

theorem Lookup.Reordered.symm {l l' : Lookup} (h : l.Reordered l') : l'.Reordered l := by
  cases h with
  | @found t interfaces hperm => exact .found { t with interfaces } hperm.symm
  | unknown => exact .unknown
  | failed f => exact .failed f

theorem Lookup.Reordered.eq_of_not_found {l l' : Lookup} (h : l.Reordered l')
    (hl : ∀ t, l ≠ .found t) : l' = l := by
  cases h with
  | found t => exact absurd rfl (hl t)
  | unknown => rfl
  | failed f => rfl

theorem Source.Reordered.symm {s s' : Source} (h : s.Reordered s') : s'.Reordered s :=
  fun name => (h name).symm

theorem Source.Reordered.exists_found {s s' : Source} (h : s.Reordered s') {name : String}
    {t : DeclaredType} (hf : s.lookup name = .found t) :
    ∃ interfaces : List String, interfaces.Perm t.interfaces ∧
      s'.lookup name = .found { t with interfaces } := by
  have hname := h name
  rw [hf] at hname
  generalize s'.lookup name = answer at hname ⊢
  cases hname with
  | found t hperm => exact ⟨_, hperm, rfl⟩

namespace CollectionLike

/-! ## Ancestors that are met -/

/-- The ancestors of a type, and those above one from which the search goes on. -/
inductive Meets (s : Source) (t : DeclaredType) : Ancestor → Prop
  | declared {a : Ancestor} (h : a ∈ ancestors t) : Meets s t a
  | above {a b : Ancestor} {u : DeclaredType} (h : Meets s t a) (hf : s.lookup a.name = .found u)
    (hadmits : a.admits u = true) (hb : b ∈ ancestors u) : Meets s t b

/-- No interface type is met both as an interface and as a superclass. -/
def MeetsInOneWay (s : Source) (t : DeclaredType) : Prop :=
  ∀ name u, Meets s t (.interface name) → Meets s t (.superclass name) →
    s.lookup name = .found u → u.isInterface = false

/-- The search goes on from the type found for a name, in one of the ways in which it is met. -/
def GoesOn (s : Source) (t : DeclaredType) (name : String) (u : DeclaredType) : Prop :=
  ∃ a, Meets s t a ∧ a.name = name ∧ a.admits u = true

variable {s s' : Source} {t : DeclaredType}

theorem handedOn_meets : HandedOn s (Meets s t) :=
  fun _ _ h hf hadmits _ hb => h.above hf hadmits hb

/-- Of ancestors of one name the search goes on from both or from neither. -/
theorem MeetsInOneWay.admits_eq (h : MeetsInOneWay s t) {a b : Ancestor} (ha : Meets s t a)
    (hb : Meets s t b) (hname : a.name = b.name) {u : DeclaredType}
    (hf : s.lookup a.name = .found u) : a.admits u = b.admits u := by
  cases a with
  | interface i =>
    cases b with
    | interface j => rfl
    | superclass p =>
      obtain rfl : i = p := hname
      simp [Ancestor.admits, h i u ha hb hf]
  | superclass p =>
    cases b with
    | interface i =>
      obtain rfl : p = i := hname
      simp [Ancestor.admits, h p u hb ha hf]
    | superclass q => rfl

/-- A search from a type that finds nothing has visited all ancestors that are met. -/
theorem exhausted_of_meets (h : MeetsInOneWay s t) {name : String} (hf : s.lookup name = .found t)
    (hsearch : ¬(search s (ancestors t) [name]).1 = true) {a : Ancestor} (ha : Meets s t a) :
    ¬a.inFamily = true ∧ a.name ∈ (search s (ancestors t) [name]).2 := by
  have hmode : ∀ a u, Meets s t a → s.lookup a.name = .found u → GoesOn s t a.name u →
      a.admits u = true := by
    rintro a u ha hu ⟨b, hb, hname, hadmits⟩
    rw [h.admits_eq ha hb hname.symm hu]
    exact hadmits
  obtain ⟨hancestors, hclosed⟩ :=
    closedWhere_of_search handedOn_meets hmode (ancestors t) [name] (fun a ha => .declared ha)
      hsearch
  induction ha with
  | declared ha => exact hancestors _ ha
  | @above a b u ha hu hadmits hb ih =>
    -- The type's own name counts as visited before the search begins, so the search does not close
    -- it; but its ancestors are those that the search begins with.
    by_cases heq : a.name = name
    · rw [heq, hf] at hu
      cases hu
      exact hancestors b hb
    · exact hclosed a.name ih.2 (by simpa using heq) u hu ⟨a, ha, rfl, hadmits⟩ b hb

/-- Where each interface type is met in one way, the search from a type finds the family exactly if
it is met. -/
theorem search_iff_meets (h : MeetsInOneWay s t) {name : String} (hf : s.lookup name = .found t) :
    (search s (ancestors t) [name]).1 = true ↔ ∃ a, Meets s t a ∧ a.inFamily = true := by
  constructor
  · exact exists_met_of_search handedOn_meets _ _ fun a ha => .declared ha
  · rintro ⟨a, ha, hfamily⟩
    refine Decidable.byContradiction fun hsearch => ?_
    exact (exhausted_of_meets h hf hsearch ha).1 hfamily

/-! ## Another order of interfaces -/

theorem mem_ancestors_reorder {u : DeclaredType} {interfaces : List String}
    (hperm : interfaces.Perm u.interfaces) {a : Ancestor} (ha : a ∈ ancestors u) :
    a ∈ ancestors { u with interfaces } := by
  rcases mem_ancestors.1 ha with ⟨i, hi, rfl⟩ | ⟨p, hp, rfl⟩
  · exact mem_ancestors.2 (Or.inl ⟨i, hperm.mem_iff.2 hi, rfl⟩)
  · exact mem_ancestors.2 (Or.inr ⟨p, hp, rfl⟩)

theorem Meets.reorder (h : s.Reordered s') {interfaces : List String}
    (hperm : interfaces.Perm t.interfaces) {a : Ancestor} (ha : Meets s t a) :
    Meets s' { t with interfaces } a := by
  induction ha with
  | declared ha => exact .declared (mem_ancestors_reorder hperm ha)
  | @above a b u _ hu hadmits hb ih =>
    obtain ⟨others, hothers, hu'⟩ := h.exists_found hu
    -- The kind of the type and its constructor stay, and with them what the search goes on from.
    have hadmits' : a.admits { u with interfaces := others } = true := by
      cases a <;> exact hadmits
    exact ih.above hu' hadmits' (mem_ancestors_reorder hothers hb)

theorem meets_reorder_iff (h : s.Reordered s') {interfaces : List String}
    (hperm : interfaces.Perm t.interfaces) {a : Ancestor} :
    Meets s' { t with interfaces } a ↔ Meets s t a :=
  ⟨fun ha => ha.reorder h.symm hperm.symm, fun ha => ha.reorder h hperm⟩

theorem MeetsInOneWay.reorder (h : s.Reordered s') {interfaces : List String}
    (hperm : interfaces.Perm t.interfaces) (hone : MeetsInOneWay s t) :
    MeetsInOneWay s' { t with interfaces } := by
  intro name u hinterface hsuperclass hu
  obtain ⟨others, -, hf⟩ := h.symm.exists_found hu
  exact hone name { u with interfaces := others } ((meets_reorder_iff h hperm).1 hinterface)
    ((meets_reorder_iff h hperm).1 hsuperclass) hf

/-- The order in which types declare their interfaces makes no difference to whether a name is that
of a collection, unless an interface type is met from it both as an interface and as a
superclass. -/
theorem isCollectionLike_of_reordered (h : s.Reordered s') {name : String}
    (hone : ∀ t, s.lookup name = .found t → MeetsInOneWay s t) :
    isCollectionLike s' name = isCollectionLike s name := by
  unfold isCollectionLike
  cases hf : s.lookup name with
  | found t =>
    obtain ⟨interfaces, hperm, hf'⟩ := h.exists_found hf
    have hsearch : (search s' (ancestors { t with interfaces }) [name]).1 =
        (search s (ancestors t) [name]).1 := by
      rw [Bool.eq_iff_iff, search_iff_meets (hone t hf) hf,
        search_iff_meets ((hone t hf).reorder h hperm) hf']
      simp only [meets_reorder_iff h hperm]
    have habstract : ({ t with interfaces } : DeclaredType).isAbstract = t.isAbstract := rfl
    simp only [hf', hsearch, habstract]
  | unknown => rw [(h name).eq_of_not_found (by simp [hf]), hf]
  | failed f => rw [(h name).eq_of_not_found (by simp [hf]), hf]

theorem meetsInOneWay_of_keepsInterfacesApart (hs : KeepsInterfacesApart s) {name : String}
    (hf : s.lookup name = .found t) : MeetsInOneWay s t := by
  have hdeclared : ∀ {a}, Meets s t a → ∃ child u, s.lookup child = .found u ∧ a ∈ ancestors u := by
    intro a ha
    cases ha with
    | declared ha => exact ⟨name, t, hf, ha⟩
    | @above b _ u _ hu _ ha => exact ⟨b.name, u, hu, ha⟩
  intro parent u _ hsuperclass hu
  obtain ⟨child, v, hv, hmem⟩ := hdeclared hsuperclass
  rcases mem_ancestors.1 hmem with ⟨i, -, hi⟩ | ⟨p, hp, hparent⟩
  · cases hi
  · cases hparent
    exact hs.no_superclass hv hp hu

/-! ## Registries -/

theorem reordered_source {r r' : Registry}
    (h : List.Forall₂ (fun t u => (Lookup.found t).Reordered (.found u)) r.types r'.types) :
    r.source.Reordered r'.source := by
  intro name
  change (r.lookup name).Reordered (r'.lookup name)
  unfold Registry.lookup Registry.find?
  generalize r.types = types, r'.types = types' at h
  induction h with
  | nil => exact .unknown
  | @cons t _ _ _ htype _ ih =>
    cases htype with
    | found _ hperm =>
      simp only [List.find?_cons]
      cases decide (t.name = name) with
      | true => exact .found t hperm
      | false => exact ih

/-- A class with the constructor of a collection. -/
def crate : DeclaredType :=
  { name := "com.acme.Crate", interfaces := ["com.acme.Lid", "com.acme.Box"]
    hasPublicConstructor := true }

def box : DeclaredType :=
  { name := "com.acme.Box", kind := .interfaceType, interfaces := ["java.util.Collection"] }

/-- The crate declares `box` before the lid. -/
def turnedCrate : DeclaredType := { crate with interfaces := ["com.acme.Box", "com.acme.Lid"] }

/-- The lid has `box` among its interfaces. -/
def lid : DeclaredType :=
  { name := "com.acme.Lid", kind := .interfaceType, interfaces := ["com.acme.Box"] }

/-- The lid has `box` for its superclass. -/
def looseLid : DeclaredType :=
  { name := "com.acme.Lid", kind := .interfaceType, superclass := some "com.acme.Box" }

def packed (crate lid : DeclaredType)
    (h : ([crate, lid, box].map (·.name)).Nodup := by decide) : Registry :=
  { types := [crate, lid, box], nodup := h }

theorem reordered_packed (lid : DeclaredType) (h : ([crate, lid, box].map (·.name)).Nodup) :
    (packed crate lid h).source.Reordered (packed turnedCrate lid h).source := by
  have hperm : ["com.acme.Box", "com.acme.Lid"].Perm crate.interfaces := .swap _ _ _
  exact reordered_source
    (.cons (.found crate hperm) (.cons (.found lid (.refl _)) (.cons (.found box (.refl _)) .nil)))

/-- As long as the lid does not have `box` for its superclass, the crate is a collection either
way. -/
theorem isCollectionLike_of_reordered_crate :
    (packed crate lid).source.Reordered (packed turnedCrate lid).source ∧
      (∀ t, (packed crate lid).source.lookup "com.acme.Crate" = .found t →
        MeetsInOneWay (packed crate lid).source t) ∧
      isCollectionLike (packed turnedCrate lid).source "com.acme.Crate" =
        isCollectionLike (packed crate lid).source "com.acme.Crate" := by
  have hs : KeepsInterfacesApart (packed crate lid).source :=
    keepsInterfacesApart_source (by decide) (by decide)
  have hreordered := reordered_packed lid (by decide)
  have hone : ∀ t, (packed crate lid).source.lookup "com.acme.Crate" = .found t →
      MeetsInOneWay (packed crate lid).source t :=
    fun t hf => meetsInOneWay_of_keepsInterfacesApart hs hf
  exact ⟨hreordered, hone, isCollectionLike_of_reordered hreordered hone⟩

/-- From the loose lid the search meets `box` as a superclass, stops, and then leaves it out as an
interface of the crate. If the crate declares `box` first, the search goes on from it. -/
theorem isCollectionLike_reordered_looseLid :
    (packed crate looseLid).source.Reordered (packed turnedCrate looseLid).source ∧
      isCollectionLike (packed crate looseLid).source "com.acme.Crate" = false ∧
      isCollectionLike (packed turnedCrate looseLid).source "com.acme.Crate" = true := by
  refine ⟨reordered_packed looseLid (by decide), ?_, ?_⟩
  · have hcrate : (packed crate looseLid).source.lookup "com.acme.Crate" = .found crate := rfl
    have hlid : (packed crate looseLid).source.lookup "com.acme.Lid" = .found looseLid := rfl
    have hstop : ∀ t, (packed crate looseLid).source.lookup "com.acme.Box" = .found t →
        (Ancestor.superclass "com.acme.Box").admits t = false := by
      rintro t ⟨⟩
      rfl
    have hbelow : search (packed crate looseLid).source (ancestors looseLid)
        ["com.acme.Lid", "com.acme.Crate"] =
          (false, ["com.acme.Box", "com.acme.Lid", "com.acme.Crate"]) := by
      change search _ [.superclass "com.acme.Box"] _ = _
      rw [search_pass (by decide) (by decide) [] hstop, search_nil]
      rfl
    have hsearch : (search (packed crate looseLid).source
        [.interface "com.acme.Lid", .interface "com.acme.Box"] ["com.acme.Crate"]).1 = false := by
      rw [search_descend (by decide) (by decide) _ hlid rfl, Ancestor.name, hbelow,
        if_neg Bool.false_ne_true, search_skip (by decide) (by decide), search_nil]
    unfold isCollectionLike
    rw [hcrate]
    exact hsearch
  · have hcrate : (packed turnedCrate looseLid).source.lookup "com.acme.Crate" =
        .found turnedCrate := rfl
    have hbox : (packed turnedCrate looseLid).source.lookup "com.acme.Box" = .found box := rfl
    have hbelow : search (packed turnedCrate looseLid).source (ancestors box)
        ["com.acme.Box", "com.acme.Crate"] = (true, ["com.acme.Box", "com.acme.Crate"]) :=
      search_family rfl [] _
    have hsearch : (search (packed turnedCrate looseLid).source
        [.interface "com.acme.Box", .interface "com.acme.Lid"] ["com.acme.Crate"]).1 = true := by
      rw [search_descend (by decide) (by decide) _ hbox rfl, Ancestor.name, hbelow, if_pos rfl]
    unfold isCollectionLike
    rw [hcrate]
    exact hsearch

end CollectionLike

end Metatype
