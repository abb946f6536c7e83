import Metatype.Encoding.Declaration
import Metatype.Proofs.SchemaCoding

/-!
# Constants and markers that are written and read

Constants without floating-point numbers and markers that hold only such constants are read back, at
any depth and with the keys of every object in any order.

* `Constant.ofJson?_toJson`, `Marker.read?_toJson`: reading what is written.
* `Constant.stable_ofJson?`, `Marker.stable_read?`: the order of keys does not count.
* `ReadsKinds`: what is asked of a reader for the kinds of markers.
-/

namespace Metatype

open Json Numeral

/-! ## Constants -/

namespace Constant

/-- A property of constants follows from what holds of the items of arrays. -/
theorem induction {P : Constant → Prop} (array : ∀ items, (∀ c ∈ items, P c) → P (.array items))
    (other : ∀ c, (∀ items, c ≠ .array items) → P c) (c : Constant) : P c :=
  @Constant.rec P (fun items => ∀ c ∈ items, P c)
    (fun _ => other _ nofun) (fun _ => other _ nofun) (fun _ => other _ nofun)
    (fun _ => other _ nofun) (fun _ => other _ nofun) (fun _ => other _ nofun)
    (fun _ => other _ nofun) (fun _ => other _ nofun) (fun _ => other _ nofun)
    (fun _ => other _ nofun) (fun _ _ => other _ nofun) array nofun
    (fun _ _ hc hrest => List.forall_mem_cons.2 ⟨hc, hrest⟩) c

mutual

/-- Whether a constant is a floating-point number or an array that holds one at any depth. -/
def hasFloat : Constant → Bool
  | .float _ => true
  | .double _ => true
  | .array items => anyHasFloat items
  | _ => false

/-- Whether one of several constants has a floating-point number. -/
def anyHasFloat : List Constant → Bool
  | [] => false
  | c :: rest => c.hasFloat || anyHasFloat rest

end

theorem hasFloat_array {items : List Constant} :
    (array items).hasFloat = false ↔ ∀ c ∈ items, c.hasFloat = false := by
  rw [hasFloat]
  induction items with
  | nil => simp [anyHasFloat]
  | cons c rest ih => simp [anyHasFloat, ih]

theorem toJson_array (items : List Constant) :
    (array items).toJson = .object [("array", .array (items.map toJson))] := by
  have h : listToJson items = items.map toJson := by
    induction items with
    | nil => rfl
    | cons c rest ih => rw [listToJson, ih, List.map_cons]
  rw [toJson, h]

theorem listOfJson?_eq (vs : List Value) : listOfJson? vs = vs.mapM ofJson? := by
  induction vs with
  | nil => rfl
  | cons v rest ih =>
    rw [listOfJson?, ih, List.mapM_cons]
    cases ofJson? v <;> cases rest.mapM ofJson? <;> rfl

/-- The constant of an object with one key. -/
theorem ofJson?_single (key : String) (v : Value) : ofJson? (.object [(key, v)]) =
    if key = "array" then (v.list? ofJson?).map .array else scalar? key v := by
  cases v with
  | array vs => rw [ofJson?, listOfJson?_eq, Value.list?]
  | null | bool | number | string | object =>
    rw [ofJson?]
    · split
      · rename_i hkey
        subst hkey
        rfl
      · rfl
    · nofun

theorem ofJson?_eq_none {members : List (String × Value)} (h : members.length ≠ 1) :
    ofJson? (.object members) = none := by
  unfold ofJson?
  split
  · rename_i heq
    cases heq
    exact absurd rfl h
  · rename_i heq
    cases heq
    exact absurd rfl h
  · rfl

theorem char?_toString (c : Char) : char? (.string c.toString) = some c := by
  simp [char?, Value.string?]

/-- A constant without floating-point numbers is read back. -/
theorem ofJson?_toJson (c : Constant) (h : c.hasFloat = false) : ofJson? c.toJson = some c := by
  induction c using Constant.induction with
  | array items ih =>
    have hitems := hasFloat_array.1 h
    rw [toJson_array, ofJson?_single, if_pos rfl, list?_map fun c hc => ih c hc (hitems c hc)]
    rfl
  | other c hc =>
    cases c with
    | array items => exact absurd rfl (hc items)
    | float | double => cases h
    | boolean | string | classLiteral | enumerator => rfl
    | byte n =>
      have hread : scalar? "byte" (.ofInt n.toInt) = some (.byte n) := by
        rw [scalar?, signed?_ofInt n.le_toInt n.toInt_lt, Option.map_some, Int8.ofInt_toInt]
      exact hread
    | character c =>
      have hread : scalar? "char" (.string c.toString) = some (.character c) := by
        rw [scalar?, char?_toString, Option.map_some]
      exact hread
    | short n =>
      have hread : scalar? "short" (.ofInt n.toInt) = some (.short n) := by
        rw [scalar?, signed?_ofInt n.le_toInt n.toInt_lt, Option.map_some, Int16.ofInt_toInt]
      exact hread
    | int n =>
      have hread : scalar? "int" (.ofInt n.toInt) = some (.int n) := by
        rw [scalar?, int32?_ofInt, Option.map_some]
      exact hread
    | long n =>
      have hread : scalar? "long" (.ofInt n.toInt) = some (.long n) := by
        rw [scalar?, signed?_ofInt n.le_toInt n.toInt_lt, Option.map_some, Int64.ofInt_toInt]
      exact hread

theorem tidy_toJson (c : Constant) (h : c.hasFloat = false) : c.toJson.Tidy := by
  induction c using Constant.induction with
  | array items ih =>
    have hitems := hasFloat_array.1 h
    have hvalue := tidy_array_map fun c hc => ih c hc (hitems c hc)
    rw [toJson_array]
    simpa using hvalue
  | other c hc =>
    cases c with
    | array items => exact absurd rfl (hc items)
    | float | double => cases h
    | boolean | string | classLiteral | character => simp [toJson]
    | byte n =>
      simpa [toJson] using tidy_ofInt (by decide) n.le_toInt n.toInt_lt
    | short n =>
      simpa [toJson] using tidy_ofInt (by decide) n.le_toInt n.toInt_lt
    | int n => simpa [toJson] using tidy_ofInt32 n
    | long n =>
      simpa [toJson] using tidy_ofInt (by decide) n.le_toInt n.toInt_lt
    | enumerator typeName constant => simp [toJson]

theorem stable_char : Stable char? := by
  intro v w hvw
  rw [char?, char?, stable_string v w hvw]

theorem stable_enumerator : Stable enumerator? :=
  stable_record fun given given' h => by simp only [mandatory_alike stable_string (h _)]

theorem stable_scalar (kind : String) : Stable (scalar? kind) := by
  unfold scalar?
  split
  · exact stable_bool.map _
  · exact (stable_signed 8).map _
  · exact stable_char.map _
  · exact (stable_signed 16).map _
  · exact stable_int32.map _
  · exact (stable_signed 64).map _
  · exact stable_of_scalar (fun _ => rfl) fun _ => rfl
  · exact stable_of_scalar (fun _ => rfl) fun _ => rfl
  · exact stable_string.map _
  · exact stable_string.map _
  · exact stable_enumerator
  · exact fun _ _ _ => rfl

theorem stable_ofJson? : Stable ofJson? := by
  -- Items of arrays stand two values deep, hence the second part.
  have h : ∀ v w : Value, v.Alike w →
      ofJson? w = ofJson? v ∧ w.list? ofJson? = v.list? ofJson? := by
    intro v
    induction v using Value.induction with
    | array vs ih =>
      intro w hvw
      obtain ⟨ws, rfl, hws⟩ := hvw.array
      refine ⟨rfl, mapM_congr_of_forall₂ ?_⟩
      have hand := (List.forall₂_and_left vs ws).2 ⟨ih, hws⟩
      exact hand.imp fun v w hvw => (hvw.1 w hvw.2).1
    | object ms ih =>
      intro w hvw
      obtain ⟨ks, rfl, hks⟩ := hvw.object
      refine ⟨?_, rfl⟩
      have hsingle : ∀ key v w, ms = [(key, v)] → v.Alike w →
          ofJson? (.object [(key, w)]) = ofJson? (.object [(key, v)]) := by
        intro key v w hms hvw
        have hlist := (ih (key, v) (by simp [hms]) w hvw).2
        rw [ofJson?_single, ofJson?_single, hlist, stable_scalar key v w hvw]
      exact object_alike_of_single (fun _ => ofJson?_eq_none) hks hsingle
    | null | bool | number | string =>
      intro w hvw
      cases hvw.2
      exact ⟨rfl, rfl⟩
  exact fun v w hvw => (h v w hvw).1

end Constant

/-! ## Markers -/

theorem stable_icon : Stable Icon.ofJson? :=
  stable_record fun given given' h => by
    simp only [mandatory_alike stable_string (h _), mandatory_alike stable_int32 (h _)]

theorem stable_choice : Stable Choice.ofJson? :=
  stable_record fun given given' h => by simp only [mandatory_alike stable_string (h _)]

theorem stable_caseNameOrEmpty : Stable Value.caseNameOrEmpty? := by
  intro v w hvw
  cases v with
  | array vs =>
    obtain ⟨ws, rfl, -⟩ := hvw.array
    rfl
  | object ms =>
    obtain ⟨ks, rfl, hks⟩ := hvw.object
    have hother : ∀ ms : List (String × Value), ms.length ≠ 1 →
        (Value.object ms).caseNameOrEmpty? = none := by
      intro ms hms
      unfold Value.caseNameOrEmpty?
      split
      · rename_i heq
        cases heq
        exact absurd rfl hms
      · exact caseName?_eq_none hms
    have hsingle : ∀ key v w, ms = [(key, v)] → v.Alike w →
        (Value.object [(key, w)]).caseNameOrEmpty? =
          (Value.object [(key, v)]).caseNameOrEmpty? := by
      intro key v w _ hvw
      cases v with
      | array vs =>
        obtain ⟨ws, rfl, -⟩ := hvw.array
        rfl
      | object ms =>
        obtain ⟨ks, rfl, hks⟩ := hvw.object
        -- Of two objects in each other's order both or none are empty.
        cases ms with
        | nil =>
          cases ks with
          | nil => rfl
          | cons k ks => cases hks.perm_keys.length_eq
        | cons m ms =>
          cases ks with
          | nil => cases hks.perm_keys.length_eq
          | cons k ks => rfl
      | null | bool | number | string =>
        cases hvw.2
        rfl
    exact object_alike_of_single hother hks hsingle
  | null | bool | number | string =>
    cases hvw.2
    rfl

theorem ObjectClassMarker.ofJson?_members (m : ObjectClassMarker) :
    ofJson? (.object m.members) = some m := by
  have hicon : Json.optional (some (orNull (fun icons => .array (icons.map Icon.toJson)) m.icon))
      (Value.list? Icon.ofJson?) = some m.icon :=
    optional_orNull fun icons _ => ⟨list?_map fun i _ => i.ofJson?_toJson, nofun⟩
  rw [ofJson?, record?_object (by simp [members])]
  simp [members, List.lookup_cons, optional_text, optional_texts, hicon]

theorem AttributeMarker.ofJson?_members (m : AttributeMarker) :
    ofJson? (.object m.members) = some m := by
  have hvalueType : Json.optional (some (orNull ValueType.toJson m.valueType))
      (fun v => v.caseNameOrEmpty?.bind ValueType.ofText?) = some m.valueType :=
    optional_orNull fun t _ => ⟨t.ofText?_text, nofun⟩
  have hcardinality : Json.optional (some (orNull (fun n => .ofInt n.toInt) m.cardinality))
      Value.int32? = some m.cardinality := optional_orNull fun n _ => ⟨int32?_ofInt n, nofun⟩
  have hrequired : Json.optional (some (orNull .bool m.required)) Value.bool? = some m.required :=
    optional_orNull fun _ _ => ⟨rfl, nofun⟩
  have hchoices : Json.optional
      (some (orNull (fun choices => .array (choices.map Choice.toJson)) m.choices))
      (Value.list? Choice.ofJson?) = some m.choices :=
    optional_orNull fun choices _ => ⟨list?_map fun c _ => c.ofJson?_toJson, nofun⟩
  rw [ofJson?, record?_object (by simp [members])]
  simp [members, List.lookup_cons, optional_text, optional_texts, hvalueType, hcardinality,
    hrequired, hchoices]

theorem ForeignMarker.ofJson?_members (m : ForeignMarker)
    (h : ∀ e ∈ m.values.toList, e.2.hasFloat = false) : ofJson? (.object m.members) = some m := by
  have hvalues : OrderedMap.ofJson? Constant.ofJson? (m.values.toJson Constant.toJson) =
      some m.values := ofJson?_map_toJson fun e he => e.2.ofJson?_toJson (h e he)
  rw [ofJson?, record?_object (by simp [members])]
  simp [members, List.lookup_cons, mandatory, defaulted, Value.string?, hvalues]

theorem ObjectClassMarker.stable_ofJson? : Stable ofJson? :=
  stable_record fun given given' h => by
    simp only [optional_alike stable_string (h _), optional_alike (stable_list stable_string) (h _),
      optional_alike (stable_list stable_icon) (h _)]

theorem AttributeMarker.stable_ofJson? : Stable ofJson? :=
  stable_record fun given given' h => by
    simp only [optional_alike stable_string (h _), optional_alike (stable_list stable_string) (h _),
      optional_alike (stable_caseNameOrEmpty.bind _) (h _), optional_alike stable_int32 (h _),
      optional_alike stable_bool (h _), optional_alike (stable_list stable_choice) (h _)]

theorem ForeignMarker.stable_ofJson? : Stable ofJson? :=
  stable_record fun given given' h => by
    simp only [mandatory_alike stable_string (h _),
      defaulted_alike (stable_map Constant.stable_ofJson?) (h _)]

/-- The constants that a marker holds. -/
def Marker.constants : Marker → List Constant
  | .foreign m => m.values.toList.map (·.2)
  | _ => []

theorem Marker.ofKind?_members (m : Marker) (h : ∀ c ∈ m.constants, c.hasFloat = false) :
    ofKind? m.kind (.object m.members) = some m := by
  match m with
  | .objectClass m => exact congrArg (Option.map Marker.objectClass) m.ofJson?_members
  | .attribute m => exact congrArg (Option.map Marker.attribute) m.ofJson?_members
  | .foreign m =>
    have hvalues : ∀ e ∈ m.values.toList, e.2.hasFloat = false :=
      fun e he => h e.2 (List.mem_map_of_mem he)
    exact congrArg (Option.map Marker.foreign) (m.ofJson?_members hvalues)

theorem Marker.stable_ofKind? (kind : MarkerKind) : Stable (ofKind? kind) := by
  match kind with
  | .objectClass => exact ObjectClassMarker.stable_ofJson?.map _
  | .attribute => exact AttributeMarker.stable_ofJson?.map _
  | .foreign => exact ForeignMarker.stable_ofJson?.map _

theorem Marker.not_kind_of_mem (m : Marker) : ∀ e ∈ m.members, e.1 ≠ "kind" := by
  match m with
  | .objectClass m => simp [members, ObjectClassMarker.members]
  | .attribute m => simp [members, AttributeMarker.members]
  | .foreign m => simp [members, ForeignMarker.members]

theorem Marker.tidy_members (m : Marker) (h : ∀ c ∈ m.constants, c.hasFloat = false) :
    (Value.object m.members).Tidy := by
  have htext : ∀ s : Option String, (orNull .string s).Tidy :=
    fun _ => tidy_orNull fun _ _ => trivial
  have htexts : ∀ ss : Option (List String), (orNull Value.ofStrings ss).Tidy :=
    fun _ => tidy_orNull fun ss _ => tidy_ofStrings ss
  match m with
  | .objectClass m =>
    have hicon : (orNull (fun icons => .array (icons.map Icon.toJson)) m.icon).Tidy :=
      tidy_orNull fun icons _ => tidy_array_map fun i _ => i.within_toJson.1
    simp [members, ObjectClassMarker.members, htext, htexts, hicon]
  | .attribute m =>
    have hvalueType : (orNull ValueType.toJson m.valueType).Tidy := tidy_orNull fun _ _ => trivial
    have hcardinality : (orNull (fun n => .ofInt n.toInt) m.cardinality).Tidy :=
      tidy_orNull fun n _ => tidy_ofInt32 n
    have hrequired : (orNull .bool m.required).Tidy := tidy_orNull fun _ _ => trivial
    have hchoices : (orNull (fun choices => .array (choices.map Choice.toJson)) m.choices).Tidy :=
      tidy_orNull fun choices _ => tidy_array_map fun c _ => c.within_toJson.1
    simp [members, AttributeMarker.members, htext, htexts, hvalueType, hcardinality, hrequired,
      hchoices]
  | .foreign m =>
    have hvalues : (m.values.toJson Constant.toJson).Tidy :=
      tidy_map_toJson fun e he => e.2.tidy_toJson (h e.2 (List.mem_map_of_mem he))
    simp [members, ForeignMarker.members, hvalues]

theorem Marker.tidy_toJson (m : Marker) (h : ∀ c ∈ m.constants, c.hasFloat = false) :
    m.toJson.Tidy := by
  obtain ⟨hkeys, hvalues⟩ := Value.tidy_object.1 (m.tidy_members h)
  refine Value.tidy_object.2 ⟨List.nodup_cons.2 ⟨?_, hkeys⟩, ?_⟩
  · intro hmem
    obtain ⟨e, he, hkey⟩ := List.mem_map.1 hmem
    exact m.not_kind_of_mem e he hkey
  · exact List.forall_mem_cons.2 ⟨trivial, hvalues⟩

/-- A reader of kinds knows their names, and has no use for the order of keys. -/
structure ReadsKinds (kind? : Value → Option MarkerKind) : Prop where
  text : ∀ k : MarkerKind, kind? (.string k.text) = some k
  stable : Stable kind?

theorem readsKinds_ofName : ReadsKinds MarkerKind.ofName? where
  text := MarkerKind.ofName?_text
  stable := stable_string.bind _

theorem readsKinds_ofNameOrNumber : ReadsKinds MarkerKind.ofNameOrNumber? where
  text k := MarkerKind.ofNameOrNumber?_of_ofName? k.ofName?_text
  stable := stable_of_scalar (fun _ => rfl) fun _ => rfl

section Kinds

variable {kind? : Value → Option MarkerKind} (hkind : ReadsKinds kind?)

include hkind

theorem Marker.read?_toJson (m : Marker) (h : ∀ c ∈ m.constants, c.hasFloat = false) :
    read? kind? m.toJson = some m := by
  have hothers := m.not_kind_of_mem
  have hfilter : (("kind", .string m.kind.text) :: m.members).filter (·.1 = "kind") =
      [("kind", Value.string m.kind.text)] := by
    rw [List.filter_cons_of_pos (by simp), List.filter_eq_nil_iff.2 (by simpa using hothers)]
  have hrest : (("kind", .string m.kind.text) :: m.members).filter (·.1 ≠ "kind") =
      m.members := by
    rw [List.filter_cons_of_neg (by simp), List.filter_eq_self.2 (by simpa using hothers)]
  rw [toJson, read?, hfilter, hrest]
  dsimp only
  rw [hkind.text, Option.bind_eq_bind, Option.bind_some, m.ofKind?_members h]

theorem Marker.stable_read? : Stable (read? kind?) := by
  have hpair : ∀ {v w rest rest' : Value}, v.Alike w → rest.Alike rest' →
      (kind? w).bind (ofKind? · rest') = (kind? v).bind (ofKind? · rest) := by
    intro v w rest rest' hvw hrest
    rw [hkind.stable v w hvw]
    exact Option.bind_congr fun kind _ => stable_ofKind? kind rest rest' hrest
  intro v w hvw
  cases v with
  | array vs =>
    obtain ⟨ws, rfl, hws⟩ := hvw.array
    cases hws with
    | nil => rfl
    | cons hfirst hothers => exact hpair hfirst (.of_forall₂ hothers)
  | object ms =>
    obtain ⟨ks, rfl, hks⟩ := hvw.object
    have hthese := hks.filter (· = "kind")
    have hothers := (hks.filter (· ≠ "kind")).alike
    rw [read?, read?]
    generalize ms.filter (·.1 = "kind") = found, ks.filter (·.1 = "kind") = found' at hthese
    have hlength : found.length = found'.length := by simpa using hthese.perm_keys.length_eq
    match found with
    | [] =>
      match found', hlength with
      | [], _ => rfl
    | [(key, kind)] =>
      obtain ⟨kind', rfl, hkinds⟩ := hthese.singleton
      exact hpair hkinds hothers
    | _ :: _ :: _ =>
      match found', hlength with
      | _ :: _ :: _, _ => rfl
  | null | bool | number | string =>
    cases hvw.2
    rfl

theorem stable_markers : Stable (Value.list? (Marker.read? kind?)) :=
  stable_list (Marker.stable_read? hkind)

theorem list?_markers {ms : List Marker}
    (h : ∀ c ∈ ms.flatMap Marker.constants, c.hasFloat = false) :
    Value.list? (Marker.read? kind?) (.array (ms.map Marker.toJson)) = some ms :=
  list?_map fun m hm => m.read?_toJson hkind fun c hc => h c (List.mem_flatMap.2 ⟨m, hm, hc⟩)

end Kinds

theorem tidy_markers {ms : List Marker}
    (h : ∀ c ∈ ms.flatMap Marker.constants, c.hasFloat = false) :
    (Value.array (ms.map Marker.toJson)).Tidy :=
  tidy_array_map fun m hm => m.tidy_toJson fun c hc => h c (List.mem_flatMap.2 ⟨m, hm, hc⟩)

theorem nullable_constant {o : Option Constant} (h : ∀ c ∈ o, c.hasFloat = false) :
    nullable Constant.ofJson? (orNull Constant.toJson o) = some o := by
  refine nullable_orNull fun c hc => ⟨c.ofJson?_toJson (h c hc), ?_⟩
  cases c <;> nofun

theorem tidy_constant {o : Option Constant} (h : ∀ c ∈ o, c.hasFloat = false) :
    (orNull Constant.toJson o).Tidy :=
  tidy_orNull fun c hc => c.tidy_toJson (h c hc)

end Metatype
