import Mathlib.Data.List.Perm.Basic
import Metatype.Proofs.Outcome
import Metatype.Registry

/-!
# Where extension markers go

A recognized marker on an element goes to the attribute of the element. Any other one, on the type,
on a field or on a static method, goes to the object class if the type is an interface proper. The
rest goes nowhere: what is on constructors and on members with parameters, what is on no member of
an annotation type, of a class or of an enumeration, and what is not recognized.

* `Reader.recognized`, `Reader.looseExtensions`: the extension attributes of markers, and those on
  no member of a type.
* `Reader.perm_recognized`: the recognized markers of a type, place by place.
* `Reader.extensions_read`: the extension attributes of an extraction, place by place.
-/

namespace Metatype

open Reporting

/-! ## Places of markers -/

namespace DeclaredType

/-- The markers on a type and on all its members. -/
def allMarkers (t : DeclaredType) : List Marker :=
  t.markers ++ t.fields.flatMap (·.markers) ++ t.methods.flatMap (·.markers)

/-- The members that do not become attributes. -/
def rejected (t : DeclaredType) : List Method := t.members.filter (!·.isElement)

end DeclaredType

/-- The extension attributes that an object class has itself, and those that its attributes have. -/
def ObjectClass.carried (o : ObjectClass) : List Extension :=
  o.extensions ++ o.attributes.flatMap (·.extensions)

namespace Reader

variable (r : Reader)

/-- The extension attributes of markers, in order; a marker that is not recognized has none. -/
def recognized (markers : List Marker) : List Extension :=
  markers.filterMap (Marker.extension? r.recognizer)

/-- The extension attributes on a type itself, then those on its fields, then those on its static
methods. -/
def looseExtensions (t : DeclaredType) : List Extension :=
  r.recognized t.markers ++ t.fields.flatMap (fun f => r.recognized f.markers) ++
    (t.methods.filter (·.isStatic)).flatMap fun m => r.recognized m.markers

/-- The extension attributes that are left out: those on rejected members, and those on no member
unless the type is an interface proper. -/
def droppedExtensions (t : DeclaredType) : List Extension :=
  (if t.kind = .interfaceType then [] else r.looseExtensions t) ++
    t.rejected.flatMap fun m => r.recognized m.markers

theorem mem_recognized_iff {markers : List Marker} {e : Extension} :
    e ∈ r.recognized markers ↔ ∃ m, Marker.foreign m ∈ markers ∧ r.recognizer m = some e := by
  rw [recognized, List.mem_filterMap]
  constructor
  · rintro ⟨m, hm, he⟩
    cases m with
    | foreign m => exact ⟨m, hm, he⟩
    | _ => cases he
  · rintro ⟨m, hm, he⟩
    exact ⟨.foreign m, hm, he⟩

theorem recognized_append (markers more : List Marker) :
    r.recognized (markers ++ more) = r.recognized markers ++ r.recognized more :=
  List.filterMap_append

theorem recognized_flatMap {α : Type} (items : List α) (f : α → List Marker) :
    r.recognized (items.flatMap f) = items.flatMap fun a => r.recognized (f a) :=
  List.filterMap_flatMap

/-! ## The object class and its attributes -/

/-- A type adds the extension attributes on no member if it is an interface proper. -/
theorem typeExtensions_eq (t : DeclaredType) :
    r.typeExtensions t = if t.kind = .interfaceType then r.looseExtensions t else [] := by
  have hloose : r.recognized (t.markers ++ t.looseMarkers) = r.looseExtensions t := by
    rw [DeclaredType.looseMarkers, recognized_append, recognized_append, recognized_flatMap,
      recognized_flatMap, looseExtensions, List.append_assoc]
  rw [typeExtensions, ← hloose, recognized]
  unfold looseExtension?
  split
  · rfl
  · exact List.filterMap_eq_nil_iff.2 fun _ _ => rfl

theorem flatMap_typeExtensions (types : List DeclaredType) :
    types.flatMap r.typeExtensions =
      (types.filter (·.kind = .interfaceType)).flatMap r.looseExtensions := by
  rw [← flatMap_ite, funext r.typeExtensions_eq]
  simp only [decide_eq_true_eq]

theorem extensions_typeAttributes (keyPrefix : Option String) (t : DeclaredType) :
    (r.typeAttributes keyPrefix t).map (fun a => (a.id, a.extensions)) =
      t.elements.map fun m => (keyPrefix.getD "" ++ t.plainKey m, r.recognized m.markers) := by
  rw [typeAttributes, List.map_map]
  rfl

/-! ## All places -/

theorem flatMap_filter_perm {α β : Type} (p : α → Bool) (f : α → List β) (items : List α) :
    ((items.filter p).flatMap f ++ (items.filter (!p ·)).flatMap f).Perm (items.flatMap f) := by
  rw [← List.flatMap_append]
  exact (List.filter_append_perm p items).flatMap_right f

/-- The recognized markers of a type are those that it adds to the object class, those on its
elements, and those that are left out. -/
theorem perm_recognized (t : DeclaredType) :
    (r.typeExtensions t ++ (t.elements.flatMap fun m => r.recognized m.markers) ++
      r.droppedExtensions t).Perm (r.recognized t.allMarkers) := by
  have hmethods := flatMap_filter_perm (·.isStatic) (fun m => r.recognized m.markers) t.methods
  have hmembers := flatMap_filter_perm (·.isElement) (fun m => r.recognized m.markers) t.members
  have hloose : r.typeExtensions t ++
      (if t.kind = .interfaceType then [] else r.looseExtensions t) = r.looseExtensions t := by
    rw [typeExtensions_eq]
    split
    · exact List.append_nil _
    · exact List.nil_append _
  have hall : r.recognized t.allMarkers =
      r.recognized t.markers ++ t.fields.flatMap (fun f => r.recognized f.markers) ++
        t.methods.flatMap fun m => r.recognized m.markers := by
    rw [DeclaredType.allMarkers, recognized_append, recognized_append, recognized_flatMap,
      recognized_flatMap]
  rw [hall]
  calc
    _ = r.typeExtensions t ++ ((t.elements.flatMap fun m => r.recognized m.markers) ++
          ((if t.kind = .interfaceType then [] else r.looseExtensions t) ++
            t.rejected.flatMap fun m => r.recognized m.markers)) := List.append_assoc ..
    List.Perm _ (r.typeExtensions t ++ ((if t.kind = .interfaceType then []
          else r.looseExtensions t) ++ ((t.elements.flatMap fun m => r.recognized m.markers) ++
            t.rejected.flatMap fun m => r.recognized m.markers))) :=
      (List.perm_append_comm_assoc ..).append_left _
    _ = r.looseExtensions t ++ ((t.elements.flatMap fun m => r.recognized m.markers) ++
          t.rejected.flatMap fun m => r.recognized m.markers) := by
      rw [← List.append_assoc, hloose]
    List.Perm _ (r.looseExtensions t ++ t.members.flatMap fun m => r.recognized m.markers) :=
      hmembers.append_left _
    _ = r.recognized t.markers ++ t.fields.flatMap (fun f => r.recognized f.markers) ++
          (((t.methods.filter (·.isStatic)).flatMap fun m => r.recognized m.markers) ++
            t.members.flatMap fun m => r.recognized m.markers) := List.append_assoc ..
    List.Perm _ _ := hmethods.append_left _

/-! ## An extraction -/

theorem extensions_of_outcome {root : DeclaredType} {o : ObjectClass}
    (h : r.outcome root = some o) : o.extensions = (r.lineage root).flatMap r.typeExtensions := by
  obtain ⟨m, -, rfl⟩ := Option.map_eq_some_iff.1 h
  rfl

theorem carried_of_outcome {root : DeclaredType} {o : ObjectClass} (h : r.outcome root = some o) :
    o.carried = (r.lineage root).flatMap r.typeExtensions ++
      (r.lineage root).flatMap fun t => t.elements.flatMap fun m => r.recognized m.markers := by
  have htype : ∀ v : Visit, (r.typeAttributes v.keyPrefix v.type).flatMap (·.extensions) =
      v.type.elements.flatMap fun m => r.recognized m.markers := fun v => List.flatMap_map ..
  have hlineage : (r.visits root).map (·.type) = r.lineage root := Visit.map_type_along ..
  rw [ObjectClass.carried, r.extensions_of_outcome h, r.attributes_of_outcome h, visitAttributes,
    List.flatMap_assoc, funext htype, ← hlineage, List.flatMap_map, List.flatMap_map]

/-- Each recognized marker of the visited types is carried once or left out. -/
theorem perm_carried {root : DeclaredType} {o : ObjectClass} (h : r.outcome root = some o) :
    (o.carried ++ (r.lineage root).flatMap r.droppedExtensions).Perm
      ((r.lineage root).flatMap fun t => r.recognized t.allMarkers) := by
  rw [r.carried_of_outcome h]
  calc
    List.Perm _ ((r.lineage root).flatMap (fun t => r.typeExtensions t ++
          t.elements.flatMap fun m => r.recognized m.markers) ++
        (r.lineage root).flatMap r.droppedExtensions) :=
      (List.flatMap_append_perm ..).append_right _
    List.Perm _ ((r.lineage root).flatMap fun t => r.typeExtensions t ++
        (t.elements.flatMap fun m => r.recognized m.markers) ++ r.droppedExtensions t) :=
      List.flatMap_append_perm ..
    List.Perm _ _ := List.Perm.flatMap_left _ fun t _ => r.perm_recognized t

/-- Let an extraction give an object class. Its extension attributes are those of the recognized
markers on the visited interfaces proper, on each first those on the type, then those on its fields,
then those on its static methods, wherever the object class marker of the root stands. Each
attribute has those of the recognized markers on its method. Together with those that are left out,
these are the extension attributes of all markers on the visited types, each at one place, and all
of them come from recognized markers. -/
theorem extensions_read (r : Reader) (root : DeclaredType) {before after : Report}
    {o : ObjectClass} (hread : (r.read root).run before = (some o, after)) :
    o.extensions =
        ((r.lineage root).filter (·.kind = .interfaceType)).flatMap (fun t =>
          r.recognized t.markers ++ t.fields.flatMap (fun f => r.recognized f.markers) ++
            (t.methods.filter (·.isStatic)).flatMap fun m => r.recognized m.markers) ∧
      o.attributes.map (fun a => (a.id, a.extensions)) =
        (r.visits root).flatMap (fun v => v.type.elements.map fun m =>
          (v.keyPrefix.getD "" ++ v.type.plainKey m, r.recognized m.markers)) ∧
      (o.carried ++ (r.lineage root).flatMap r.droppedExtensions).Perm
        ((r.lineage root).flatMap fun t => r.recognized t.allMarkers) ∧
      ∀ e ∈ o.carried, ∃ t ∈ r.lineage root, ∃ m,
        Marker.foreign m ∈ t.allMarkers ∧ r.recognizer m = some e := by
  obtain ⟨ho, -⟩ := r.outcome_of_run_read hread
  have hperm := r.perm_carried ho
  refine ⟨?_, ?_, hperm, fun e he => ?_⟩
  · rw [r.extensions_of_outcome ho, flatMap_typeExtensions]
    rfl
  · rw [r.attributes_of_outcome ho, visitAttributes, List.map_flatMap]
    simp only [extensions_typeAttributes]
  · have hmem := hperm.subset (List.mem_append_left _ he)
    obtain ⟨t, ht, hrecognized⟩ := List.mem_flatMap.1 hmem
    exact ⟨t, ht, r.mem_recognized_iff.1 hrecognized⟩

def tuning (place : String) : Marker :=
  .foreign { typeName := "com.acme.Tuning", values := .ofList [("place", .string place)] }

def colour : Marker := .foreign { typeName := "com.acme.Colour", values := {} }

/-- An interface with the object class marker between two recognized ones and with recognized
markers on all kinds of members. -/
def panel : DeclaredType :=
  { name := "com.acme.Panel", kind := .interfaceType
    interfaces := ["com.acme.Dial", "com.acme.Lamp"]
    markers := [tuning "panel", .objectClass {}, colour, tuning "again"]
    fields := [{ name := "KEY", markers := [tuning "field", colour] }]
    methods := [
      { name := "level", returnType := "int", markers := [colour, tuning "level"] },
      { name := "of", isStatic := true, markers := [tuning "static"] },
      { name := "set", parameters := ["int"], markers := [tuning "set"] }] }

/-- An annotation type with a recognized marker on itself and one on its element. -/
def dial : DeclaredType :=
  { name := "com.acme.Dial", kind := .annotationType, markers := [tuning "dial"]
    methods := [{ name := "step", returnType := "int", markers := [tuning "step"] }] }

def lamp : DeclaredType :=
  { name := "com.acme.Lamp", kind := .interfaceType, markers := [tuning "lamp"] }

def panelReader : Reader :=
  { source := Registry.source { types := [panel, dial, lamp], nodup := by decide }
    recognizer :=
      (Registrations.ofList [⟨"com.acme.Tuning", "urn:acme:tuning", "tn"⟩]).recognizer }

/-- The two interfaces give the object class what is on no element, and each element keeps its
own. -/
theorem extensions_read_panel :
    ∃ o after, (panelReader.read panel).run {} = (some o, after) ∧
      o.extensions.map (·.attributes.toList) =
        [[("place", "panel")], [("place", "again")], [("place", "field")], [("place", "static")],
          [("place", "lamp")]] ∧
      o.attributes.map (fun a => (a.id, a.extensions.map (·.attributes.toList))) =
        [("level", [[("place", "level")]]), ("step", [[("place", "step")]])] := by
  have hdial : panelReader.route.source.lookup "com.acme.Dial" = .found dial := rfl
  have hlamp : panelReader.route.source.lookup "com.acme.Lamp" = .found lamp := rfl
  have hsteps : panelReader.stepsAbove panel = [.visit dial, .visit lamp] := by
    rw [stepsAbove, panel, Ancestry.follow_descend (by decide) _ hdial rfl, dial,
      Ancestry.follow_nil, Ancestry.follow_descend (by decide) _ hlamp rfl, lamp,
      Ancestry.follow_nil, Ancestry.follow_nil]
    rfl
  have hlineage : panelReader.lineage panel = [panel, dial, lamp] := by
    rw [lineage_eq, hsteps]
    rfl
  obtain ⟨o, after, hread⟩ := panelReader.exists_run_read panel rfl {}
  obtain ⟨hextensions, hattributes, -⟩ := panelReader.extensions_read panel hread
  refine ⟨o, after, hread, ?_, ?_⟩
  · rw [hextensions, hlineage]
    decide
  · have hpairs := congrArg (List.map fun p => (p.1, p.2.map fun e : Extension =>
      e.attributes.toList)) hattributes
    rw [List.map_map, visits, hlineage] at hpairs
    exact hpairs.trans (by decide)

end Reader

end Metatype
