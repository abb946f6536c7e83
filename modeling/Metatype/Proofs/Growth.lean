import Metatype.Proofs.Replay

/-!
# Growth of object classes

Whatever event a collector gets, and in whatever state it is, the object class of its draft only
grows: attributes and extension attributes are added after those it has, its revision is raised, and
nothing else changes. The one event that gives a draft its object class is an object class marker.

* `ObjectClass.GrowsTo`, `Draft.GrowsTo`: growth, a preorder.
* `Reader.ensures_settle`, `Collector.ensures_finish`: what the end of a type does to a draft.
* `Collector.ensures_step`: what one event does to a draft.
* `Collector.ensures_run`: a sequence of events.
-/

namespace Metatype

open Reporting

/-! ## Growth -/

/-- What an object class may become once it is declared. -/
structure ObjectClass.GrowsTo (o o' : ObjectClass) : Prop where
  id : o'.id = o.id
  name : o'.name = o.name
  description : o'.description = o.description
  localization : o'.localization = o.localization
  designates : o'.designates = o.designates
  icons : o'.icons = o.icons
  attributes : o.attributes <+: o'.attributes
  extensions : o.extensions <+: o'.extensions
  revision : o.revision ≤ o'.revision

namespace ObjectClass

theorem GrowsTo.refl (o : ObjectClass) : o.GrowsTo o :=
  ⟨rfl, rfl, rfl, rfl, rfl, rfl, List.prefix_rfl, List.prefix_rfl, Revision.le_refl _⟩

theorem GrowsTo.trans {o o' o'' : ObjectClass} (h : o.GrowsTo o') (h' : o'.GrowsTo o'') :
    o.GrowsTo o'' where
  id := h'.id.trans h.id
  name := h'.name.trans h.name
  description := h'.description.trans h.description
  localization := h'.localization.trans h.localization
  designates := h'.designates.trans h.designates
  icons := h'.icons.trans h.icons
  attributes := h.attributes.trans h'.attributes
  extensions := h.extensions.trans h'.extensions
  revision := Revision.le_trans h.revision h'.revision

theorem growsTo_raise (o : ObjectClass) (wanted : Revision) : o.GrowsTo (o.raise wanted) :=
  { GrowsTo.refl o with revision := o.revision_le_raise wanted }

theorem growsTo_push (o : ObjectClass) (a : Attribute) : o.GrowsTo (o.push a) :=
  { GrowsTo.refl o with attributes := List.prefix_append _ _ }

theorem growsTo_extend (o : ObjectClass) (extensions : List Extension) :
    o.GrowsTo { o with extensions := o.extensions ++ extensions } :=
  { GrowsTo.refl o with extensions := List.prefix_append _ _ }

end ObjectClass

/-- What a draft may become without a marker that declares its object class. -/
structure Draft.GrowsTo (d d' : Draft) : Prop where
  eq_none : d.objectClass = none → d'.objectClass = none
  exists_some : ∀ o, d.objectClass = some o → ∃ o', d'.objectClass = some o' ∧ o.GrowsTo o'

namespace Draft

theorem growsTo_of_map {d d' : Draft} {f : ObjectClass → ObjectClass}
    (h : d'.objectClass = d.objectClass.map f) (hf : ∀ o : ObjectClass, o.GrowsTo (f o)) :
    d.GrowsTo d' where
  eq_none hd := by rw [h, hd, Option.map_none]
  exists_some o hd := ⟨f o, by rw [h, hd, Option.map_some], hf o⟩

theorem growsTo_of_eq {d d' : Draft} (h : d'.objectClass = d.objectClass) : d.GrowsTo d' where
  eq_none hd := h.trans hd
  exists_some o hd := ⟨o, h.trans hd, .refl o⟩

theorem GrowsTo.refl (d : Draft) : d.GrowsTo d := growsTo_of_eq rfl

theorem GrowsTo.trans {d d' d'' : Draft} (h : d.GrowsTo d') (h' : d'.GrowsTo d'') :
    d.GrowsTo d'' where
  eq_none hd := h'.eq_none (h.eq_none hd)
  exists_some o hd := by
    obtain ⟨o', hd', ho⟩ := h.exists_some o hd
    obtain ⟨o'', hd'', ho'⟩ := h'.exists_some o' hd'
    exact ⟨o'', hd'', ho.trans ho'⟩

theorem growsTo_raise (d : Draft) (wanted : Revision) : d.GrowsTo (d.raise wanted) :=
  growsTo_of_map rfl (ObjectClass.growsTo_raise · wanted)

theorem growsTo_push (d : Draft) (a : Attribute) : d.GrowsTo (d.push a) :=
  growsTo_of_map rfl (ObjectClass.growsTo_push · a)

theorem growsTo_extend (d : Draft) (extensions : List Extension) :
    d.GrowsTo (d.extend extensions) :=
  growsTo_of_map rfl (ObjectClass.growsTo_extend · extensions)

theorem growsTo_withPrefix (d : Draft) (field : Option Field) : d.GrowsTo (d.withPrefix field) := by
  unfold withPrefix
  split
  · exact growsTo_of_map rfl (ObjectClass.growsTo_raise · .v1_4)
  · exact growsTo_of_eq rfl

end Draft

/-! ## Settling -/

namespace Reader

variable (r : Reader) (t : DeclaredType)

/-- Of any pending attribute an attribute can be made. -/
theorem ensures_attributeOf (id : String) (p : Pending) :
    Ensures (r.attributeOf t id p) fun _ => True := by
  have hmapping := r.yields_mapType_self t.name p.name p.returnType
  unfold attributeOf
  refine (hmapping.ensures (P := fun _ => True) trivial).bind fun mapping _ => ?_
  have hchoices := r.yields_choices t.name p.name mapping.element
  refine (hchoices.ensures (P := fun _ => True) trivial).bind fun choices _ => ?_
  dsimp only
  split
  · rename_i value _ _ _
    exact ((r.yields_defaults _ _ value).map _).ensures trivial
  · exact ensures_pure trivial

/-- Whatever the pending attribute, the object class has grown when it is settled. -/
theorem ensures_settle (shorthand : Option String) (d : Draft) (p : Pending) :
    Ensures (r.settle t shorthand d p) d.GrowsTo := by
  unfold settle
  split
  · exact ((yields_error _ _).then_pure d).ensures (.refl d)
  split
  · exact ((yields_error _ _).then_pure d).ensures (.refl d)
  dsimp only
  refine (r.ensures_attributeOf t _ p).bind fun a _ => ensures_pure ?_
  split
  · exact (d.growsTo_raise _).trans (Draft.growsTo_push _ a)
  · exact d.growsTo_push a

theorem ensures_settleAll (shorthand : Option String) (d : Draft) (pending : List Pending) :
    Ensures (pending.foldlM (r.settle t shorthand) d) d.GrowsTo :=
  ensures_foldlM d.GrowsTo pending (.refl d) fun d' p hd' =>
    (r.ensures_settle t shorthand d' p).mono fun _ => hd'.trans

end Reader

/-! ## Events -/

/-- The event gives a draft its object class: there was none, and the event is the marker that
declares it, for the earliest revision of the reader. -/
def Reader.Declares (r : Reader) (t : DeclaredType) (e : Event) (d d' : Draft) : Prop :=
  ∃ m, e = .marker (.objectClass m) ∧ d.objectClass = none ∧
    d'.objectClass = some (m.objectClass t.name r.floor)

namespace Collector

variable (r : Reader) (t : DeclaredType) (isRoot : Bool) (c : Collector)

theorem ensures_declare (m : ObjectClassMarker) :
    Ensures (c.declare r t m) fun c' =>
      c.draft.GrowsTo c'.draft ∨ r.Declares t (.marker (.objectClass m)) c.draft c'.draft := by
  unfold declare
  split
  · exact ensures_pure (.inl (.refl _))
  · rename_i h
    obtain ⟨-, hnone⟩ : c.cursor = .type ∧ c.draft.objectClass = none := by simpa using h
    split
    · exact ensures_pure (.inr ⟨m, rfl, hnone, rfl⟩)
    · exact ((yields_error _ _).then_pure c).ensures (.inl (.refl _))

theorem ensures_resolvePrefix :
    Ensures (c.resolvePrefix t) fun c' => c.draft.GrowsTo c'.draft :=
  (yields_resolvePrefix t c).ensures (c.draft.growsTo_withPrefix c.prefixField)

/-- The last part of the end of a type: the pending attributes are settled, with the shorthand key
if there is one. -/
theorem ensures_settlePending :
    Ensures (do
        let d := if (c.shorthand t).isSome then c.draft.raise .v1_4 else c.draft
        return { c with
          pending := [], draft := ← c.pending.foldlM (r.settle t (c.shorthand t)) d })
      fun c' => c.draft.GrowsTo c'.draft := by
  refine (r.ensures_settleAll t _ _ c.pending).bind fun d hd => ensures_pure ?_
  split at hd
  · exact (c.draft.growsTo_raise .v1_4).trans hd
  · exact hd

/-- At the end of a type the object class grows by the extension attributes, with the prefix and by
the pending attributes. -/
theorem ensures_finish :
    Ensures (c.finish r t isRoot) fun c' => c.draft.GrowsTo c'.draft := by
  unfold finish
  dsimp only
  split
  · exact ensures_pure (.refl _)
  have hextended := c.draft.growsTo_extend c.extensions
  split
  · refine (ensures_resolvePrefix t _).bind fun c' hc' => ?_
    exact (ensures_settlePending r t c').mono fun _ => (hextended.trans hc').trans
  · exact (ensures_settlePending r t _).mono fun _ => hextended.trans

/-- An extension attribute is kept until the end of the type. -/
theorem draft_extend (e : Extension) : (c.extend t e).draft = c.draft := by
  unfold extend
  split
  · rfl
  · split <;> rfl
  · split <;> rfl
  · rfl

theorem ensures_mark (m : Marker) :
    Ensures (c.mark r t m) fun c' =>
      c.draft.GrowsTo c'.draft ∨ r.Declares t (.marker m) c.draft c'.draft := by
  match m with
  | .objectClass m => exact c.ensures_declare r t m
  | .attribute m =>
    simp only [mark, describe]
    split
    · exact ensures_pure (.inl (.refl _))
    · exact ((yields_warning _ _).then_pure c).ensures (.inl (.refl _))
  | .foreign m =>
    simp only [mark]
    split
    · exact ensures_pure (.inl (Draft.growsTo_of_eq (by rw [draft_extend])))
    · exact ensures_pure (.inl (.refl _))

theorem draft_enterMethod (m : Method) : (c.enterMethod t m).draft = c.draft := by
  unfold enterMethod
  split <;> rfl

/-- Of all events, only object class markers and the end of the type reach the draft. -/
theorem ensures_step (e : Event) :
    Ensures (c.step r t isRoot e) fun c' =>
      c.draft.GrowsTo c'.draft ∨ r.Declares t e c.draft c'.draft := by
  cases e with
  | typeStart => exact ensures_pure (.inl (.refl _))
  | field f => exact ensures_pure (.inl (.refl _))
  | method m => exact ensures_pure (.inl (Draft.growsTo_of_eq (by rw [draft_enterMethod])))
  | marker m => exact c.ensures_mark r t m
  | default m value =>
    exact ensures_pure (.inl (Draft.growsTo_of_eq (by rw [enterDefault_eq])))
  | memberEnd => exact ensures_pure (.inl (.refl _))
  | typeEnd => exact (c.ensures_finish r t isRoot).mono fun _ => .inl

/-- A sequence of events only adds to the report, whatever state the collector is in. -/
theorem ensures_run (events : List Event) :
    Ensures (c.run r t isRoot events) fun _ => True :=
  ensures_foldlM (fun _ => True) events trivial fun c e _ =>
    (c.ensures_step r t isRoot e).mono fun _ _ => trivial

end Collector

end Metatype
