import Metatype.Proofs.DeclarationCoding
import Metatype.Proofs.RegistryHistory

/-!
# Documents that are written and read

A document of one type or of an array of types gives the types back, unless its text is nested too
deep. A JSON value has no such limit.

* `Document.types?_array`, `Document.types?_single`: the types of an array and of a single object.
* `Document.parse_of_spells`, `Document.parse_of_depth`: what is read from a text.
* `DeclaredType.encoding_read_back`: types are read back from what stands for them.
-/

namespace Metatype

open Json

/-- No constant of the type has floating-point numbers. -/
def DeclaredType.FloatFree (t : DeclaredType) : Prop := ∀ c ∈ t.constants, c.hasFloat = false

namespace Document

/-! ## Values -/

theorem type?_of_encodes {t : DeclaredType} (hfree : t.FloatFree) {w : Value} (h : t.Encodes w) :
    type? w = some t :=
  DeclaredType.read?_of_encodes hfree readsKinds_ofNameOrNumber h

theorem types?_array {types : List DeclaredType} (hfree : ∀ t ∈ types, t.FloatFree)
    {values : List Value} (h : List.Forall₂ DeclaredType.Encodes types values) :
    types? (.array values) = some types := by
  have hall := (List.forall₂_and_left types values).2 ⟨hfree, h⟩
  have hlist : Value.list? type? (.array values) = some types :=
    mapM_eq_some_of_forall₂ (hall.imp fun t w htw => type?_of_encodes htw.1 htw.2)
  rw [types?, hlist]

theorem exists_object_of_encodes {t : DeclaredType} {w : Value} (h : t.Encodes w) :
    ∃ ms, w = .object ms := by
  obtain ⟨v, ⟨-, -, kept, -, -, -, rfl⟩, hvw⟩ := h
  cases hvw with
  | same => exact ⟨kept, rfl⟩
  | object => exact ⟨_, rfl⟩

/-- An object is no array, so it is read as a type. -/
theorem types?_single {t : DeclaredType} (hfree : t.FloatFree) {w : Value} (h : t.Encodes w) :
    types? w = some [t] := by
  have hread := type?_of_encodes hfree h
  obtain ⟨ms, rfl⟩ := exists_object_of_encodes h
  rw [types?, Value.list?, hread]
  · rfl
  · intro items hitems
    cases hitems

theorem tidy_array_of_encodes {types : List DeclaredType} (hfree : ∀ t ∈ types, t.FloatFree)
    {values : List Value} (h : List.Forall₂ DeclaredType.Encodes types values) :
    (Value.array values).Tidy :=
  Value.tidy_array.2 <|
    forall_mem_of_forall₂ h fun t ht _ => DeclaredType.tidy_of_encodes (hfree t ht)

/-! ## Texts -/

section Texts

variable {v : Value} (hv : v.Tidy) {text : String} (h : v.Spells text)

include hv h

theorem parse_of_spells (hd : v.depth ≤ maxDepth) {types : List DeclaredType}
    (htypes : types? v = some types) : parse text = .ok types := by
  obtain ⟨after, hafter, hparse⟩ := parsePrefix_of_spells hv h hd
  rw [parse, hparse]
  dsimp only
  rw [htypes, skip_blanks hafter]
  rfl

theorem parse_of_depth (hd : maxDepth < v.depth) : parse text = .error .notJson := by
  rw [parse, parsePrefix_eq_none hv h hd]

end Texts

/-- The printed form of an array of types is a document that has these types. -/
theorem parse_compact {types : List DeclaredType} (hfree : ∀ t ∈ types, t.FloatFree)
    (hd : (Value.array (types.map DeclaredType.toJson)).depth ≤ maxDepth) :
    parse (Value.array (types.map DeclaredType.toJson)).compact = .ok types := by
  have hencodes : List.Forall₂ DeclaredType.Encodes types (types.map DeclaredType.toJson) :=
    List.forall₂_map_right_iff.2 (List.forall₂_same.2 fun t _ => t.encodes_toJson)
  exact parse_of_spells (tidy_array_of_encodes hfree hencodes) (Value.spells_compact _) hd
    (types?_array hfree hencodes)

end Document

/-! ## Registries -/

open Registry in
theorem Registry.addDocument_of_parse {types : List DeclaredType}
    (hnames : (types.map (·.name)).Nodup) {text : String} (h : Document.parse text = .ok types) :
    ∃ r, empty.addDocument text = (r, .ok types.length) ∧ r.types = types := by
  obtain ⟨r, hadd, htypes⟩ := @addTypes_of_nodup empty types hnames
  refine ⟨r, ?_, htypes⟩
  rw [addDocument, h]
  exact hadd

namespace DeclaredType

/-- A type is read back from the JSON that stands for it. A text gives it back if and only if it is
not nested too deep; a document that is nested too deep is refused, any other one adds its types. A
document of a single type is like one of an array with that type alone. -/
theorem encoding_read_back :
    (∀ t w, t.FloatFree → t.Encodes w → ofJson? w = some t ∧
      ∀ text, w.Spells text → ((Value.parse text).bind ofJson? = some t ↔ w.depth ≤ maxDepth)) ∧
    (∀ types values, (∀ t ∈ types, t.FloatFree) → List.Forall₂ Encodes types values →
      (types.map (·.name)).Nodup → ∀ text, (Value.array values).Spells text →
      ((Value.array values).depth ≤ maxDepth →
        ∃ r, Registry.empty.addDocument text = (r, .ok types.length) ∧
          ∀ t ∈ types, r.find? t.name = some t) ∧
      (maxDepth < (Value.array values).depth →
        Registry.empty.addDocument text = (.empty, .error (.document .notJson)))) ∧
    ∀ t w, t.FloatFree → t.Encodes w → ∀ text, w.Spells text →
      (w.depth ≤ maxDepth →
        ∃ r, Registry.empty.addDocument text = (r, .ok 1) ∧ r.find? t.name = some t ∧
          ∀ text', (Value.array [w]).Spells text' → (Value.array [w]).depth ≤ maxDepth →
            Registry.empty.addDocument text' = (r, .ok 1)) ∧
      (maxDepth < w.depth →
        Registry.empty.addDocument text = (.empty, .error (.document .notJson))) := by
  refine ⟨?_, ?_, ?_⟩
  · intro t w hfree hw
    have hread := read?_of_encodes hfree readsKinds_ofName hw
    have htidy := tidy_of_encodes hfree hw
    refine ⟨hread, fun text htext => ⟨fun hbind => Nat.not_lt.1 fun hd => ?_, fun hd => ?_⟩⟩
    · rw [Value.parse, parsePrefix_eq_none htidy htext hd] at hbind
      cases hbind
    · rw [(parse_eq_some_iff htidy htext).2 hd]
      exact hread
  · intro types values hfree hvalues hnames text htext
    have htidy := Document.tidy_array_of_encodes hfree hvalues
    refine ⟨fun hd => ?_, fun hd => ?_⟩
    · have hparse := Document.parse_of_spells htidy htext hd (Document.types?_array hfree hvalues)
      obtain ⟨r, hadd, htypes⟩ := Registry.addDocument_of_parse hnames hparse
      exact ⟨r, hadd, fun t ht => Registry.find?_eq_some_iff.2 ⟨htypes ▸ ht, rfl⟩⟩
    · rw [Registry.addDocument, Document.parse_of_depth htidy htext hd]
  · intro t w hfree hw text htext
    have htidy := tidy_of_encodes hfree hw
    refine ⟨fun hd => ?_, fun hd => ?_⟩
    · have hparse := Document.parse_of_spells htidy htext hd (Document.types?_single hfree hw)
      have hnames : ([t].map (·.name)).Nodup := List.nodup_singleton _
      obtain ⟨r, hadd, htypes⟩ := Registry.addDocument_of_parse hnames hparse
      have hfind : r.find? t.name = some t :=
        Registry.find?_eq_some_iff.2 ⟨by simp [htypes], rfl⟩
      refine ⟨r, hadd, hfind, fun text' htext' hd' => ?_⟩
      have hfree' : ∀ u ∈ [t], u.FloatFree := by simpa using hfree
      have hvalues : List.Forall₂ Encodes [t] [w] := .cons hw .nil
      have hparse' := Document.parse_of_spells (Document.tidy_array_of_encodes hfree' hvalues)
        htext' hd' (Document.types?_array hfree' hvalues)
      refine Eq.trans ?_ hadd
      rw [Registry.addDocument, Registry.addDocument, hparse, hparse']
    · rw [Registry.addDocument, Document.parse_of_depth htidy htext hd]

/-- A marker without values. -/
def probeMarker : Marker := .foreign ⟨"org.Mark", ∅⟩

/-- The marker with its kind in the middle. -/
def probeMarkerValue : Value :=
  .object [("values", .object []), ("kind", .string "other"), ("type_name", .string "org.Mark")]

/-- A constant that is nested. -/
def probeConstant : Constant := .array [.character 'x', .array [.enumerator "org.Mode" "FAST"]]

/-- A method with a default and a marker. -/
def probeMethod : Method where
  name := "mode"
  default := some probeConstant
  markers := [probeMarker]

/-- The method with those keys that do not have their defaults, in another order. -/
def probeMethodValue : Value :=
  .object
    [("markers", .array [probeMarkerValue]), ("name", .string "mode"),
      ("default_value", probeConstant.toJson)]

/-- A type with the method. -/
def probeType : DeclaredType where
  name := "org.Probe"
  methods := [probeMethod]

/-- The type with those keys that do not have their defaults, in another order. -/
def probeValue : Value :=
  .object [("methods", .array [probeMethodValue]), ("name", .string "org.Probe")]

theorem reordered_probeMarker : probeMarker.toJson.Reordered probeMarkerValue :=
  .object rfl (List.forall₂_same.2 fun v _ => .same v) (@List.perm_append_comm _ [_, _] [_])

theorem encodes_probeValue : probeType.Encodes probeValue := by
  have hmethod : probeMethod.Abridged (.object
      [("name", .string "mode"), ("default_value", probeConstant.toJson),
        ("markers", .array [probeMarker.toJson])]) := by
    refine ⟨_, ⟨?_, by simp [Method.members, probeMethod, orNull]⟩, rfl⟩
    exact .cons_cons _ <| .cons _ <| .cons _ <| .cons _ <| .cons _ <| .cons_cons _ <|
      .cons_cons _ .slnil
  have htype : probeType.Abridged (.object
      [("name", .string "org.Probe"), ("methods", .array [.object
        [("name", .string "mode"), ("default_value", probeConstant.toJson),
          ("markers", .array [probeMarker.toJson])]])]) := by
    refine ⟨[], _, _, .nil, .cons hmethod .nil, ⟨?_, by simp [membersWith, probeType]⟩, rfl⟩
    exact .cons_cons _ <| .cons _ <| .cons _ <| .cons _ <| .cons _ <| .cons _ <| .cons _ <|
      .cons _ <| .cons_cons _ .slnil
  have hreordered : (Value.object
      [("name", .string "mode"), ("default_value", probeConstant.toJson),
        ("markers", .array [probeMarker.toJson])]).Reordered probeMethodValue := by
    refine .object ?_ ?_ (@List.perm_append_comm _ [_, _] [_])
    · rfl
    · have hmarkers := List.Forall₂.cons reordered_probeMarker .nil
      exact .cons (.same _) (.cons (.same _) (.cons (.array hmarkers) .nil))
  refine ⟨_, htype, .object ?_ ?_ (.swap _ _ _)⟩
  · rfl
  · exact .cons (.same _) (.cons (.array (.cons hreordered .nil)) .nil)

theorem encoding_read_back_probe :
    ofJson? probeValue = some probeType ∧
      (Value.parse probeValue.pretty).bind ofJson? = some probeType ∧
      ∃ r, Registry.empty.addDocument (Value.array [probeValue]).compact = (r, .ok 1) ∧
        ∀ t ∈ [probeType], r.find? t.name = some t := by
  have hfree : probeType.FloatFree := by
    unfold FloatFree
    decide
  obtain ⟨hread, htext⟩ := encoding_read_back.1 probeType probeValue hfree encodes_probeValue
  have hdocument := encoding_read_back.2.1 [probeType] [probeValue] (by simpa using hfree)
    (.cons encodes_probeValue .nil) (by decide) _ (Value.spells_compact _)
  exact ⟨hread, (htext _ (Value.spells_pretty _)).2 (by decide), hdocument.1 (by decide)⟩

/-- A number of arrays, each one but the last with the next one in it. -/
def nestedArrays : Nat → Constant
  | 0 => .array []
  | n + 1 => .array [nestedArrays n]

/-- A type with a field whose value is nested 63 arrays deep. -/
def deepType : DeclaredType where
  name := "org.Deep"
  fields := [{ name := "f", typeName := "java.lang.Object", constant := some (nestedArrays 62) }]

/-- Neither the text of the type nor that of an array with it is read, and nothing is added. -/
theorem encoding_not_read_deep :
    deepType.FloatFree ∧ ofJson? deepType.toJson = some deepType ∧
      (Value.parse deepType.toJson.compact).bind ofJson? = none ∧
      Registry.empty.addDocument deepType.toJson.compact =
        (.empty, .error (.document .notJson)) ∧
      Registry.empty.addDocument (Value.array [deepType.toJson]).compact =
        (.empty, .error (.document .notJson)) := by
  have hfree : deepType.FloatFree := by
    unfold FloatFree
    decide
  have hencodes := deepType.encodes_toJson
  have htidy := tidy_of_encodes hfree hencodes
  have htidy' : (Value.array [deepType.toJson]).Tidy := Value.tidy_array.2 (by simpa using htidy)
  have hdeep : maxDepth < deepType.toJson.depth := by decide +kernel
  have hdeep' : maxDepth < (Value.array [deepType.toJson]).depth := by decide +kernel
  have hspells := deepType.toJson.spells_compact
  have hspells' := (Value.array [deepType.toJson]).spells_compact
  refine ⟨hfree, read?_of_encodes hfree readsKinds_ofName hencodes, ?_, ?_, ?_⟩
  · rw [Value.parse, parsePrefix_eq_none htidy hspells hdeep]
    rfl
  · rw [Registry.addDocument, Document.parse_of_depth htidy hspells hdeep]
  · rw [Registry.addDocument, Document.parse_of_depth htidy' hspells' hdeep']

end DeclaredType

end Metatype
