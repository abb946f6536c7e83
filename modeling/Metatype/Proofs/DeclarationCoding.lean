import Metatype.Proofs.MarkerCoding

/-!
# Declarations that are written and read

A type is read back from its JSON, also if keys are left out that have their defaults and if the
keys of its objects come in another order.

* `Field.Abridged`, `Method.Abridged`, `DeclaredType.Abridged`: what is written, with keys left out.
* `DeclaredType.Encodes`: the same with the keys of all objects in any order.
* `DeclaredType.read?_of_encodes`: the type is read from all of these.
-/

namespace Metatype

open Json

/-! ## Fields -/

namespace Field

/-- The constants of a field: its value, and those on its markers. -/
def constants (f : Field) : List Constant :=
  f.constant.toList ++ f.markers.flatMap Marker.constants

/-- The members of a field. -/
def members (f : Field) : List (String × Value) :=
  [("name", .string f.name), ("type", .string f.typeName), ("is_static", .bool f.isStatic),
    ("is_final", .bool f.isFinal), ("is_enum_constant", .bool f.isEnumerator),
    ("constant", orNull Constant.toJson f.constant),
    ("markers", .array (f.markers.map Marker.toJson))]

theorem nodup_keys (f : Field) : (f.members.map (·.1)).Nodup := by
  simp [members]

/-- The field as JSON, where any keys may be left out that have their defaults. -/
def Abridged (f : Field) (v : Value) : Prop :=
  ∃ kept, Omits (members {}) f.members kept ∧ v = .object kept

theorem abridged_toJson (f : Field) : f.Abridged f.toJson :=
  ⟨f.members, .refl _ _, rfl⟩

variable {f : Field} (hconstants : ∀ c ∈ f.constants, c.hasFloat = false)

include hconstants

theorem tidy_of_abridged {v : Value} (h : f.Abridged v) : v.Tidy := by
  obtain ⟨kept, homits, rfl⟩ := h
  obtain ⟨hconstant, hmarkers⟩ := List.forall_mem_append.1 hconstants
  have hvalue := tidy_constant (o := f.constant) (by simpa using hconstant)
  refine homits.tidy (Value.tidy_object.2 ⟨f.nodup_keys, ?_⟩)
  have hall := tidy_markers hmarkers
  simp only [members, List.forall_mem_cons]
  exact ⟨trivial, trivial, trivial, trivial, trivial, hvalue, hall, nofun⟩

theorem read?_of_abridged {kind? : Value → Option MarkerKind} (hkind : ReadsKinds kind?)
    {v : Value} (h : f.Abridged v) : read? kind? v = some f := by
  obtain ⟨kept, homits, rfl⟩ := h
  obtain ⟨hconstant, hmarkers⟩ := List.forall_mem_append.1 hconstants
  have hkept : (kept.map (·.1)).Nodup := f.nodup_keys.sublist (homits.sublist.map _)
  have hname : defaulted (kept.lookup "name") "" Value.string? = some f.name :=
    homits.defaulted f.nodup_keys (nodup_keys {}) rfl rfl rfl rfl
  have htypeName : defaulted (kept.lookup "type") "" Value.string? = some f.typeName :=
    homits.defaulted f.nodup_keys (nodup_keys {}) rfl rfl rfl rfl
  have hstatic : defaulted (kept.lookup "is_static") false Value.bool? = some f.isStatic :=
    homits.defaulted f.nodup_keys (nodup_keys {}) rfl rfl rfl rfl
  have hfinal : defaulted (kept.lookup "is_final") false Value.bool? = some f.isFinal :=
    homits.defaulted f.nodup_keys (nodup_keys {}) rfl rfl rfl rfl
  have henumerator : defaulted (kept.lookup "is_enum_constant") false Value.bool? =
      some f.isEnumerator :=
    homits.defaulted f.nodup_keys (nodup_keys {}) rfl rfl rfl rfl
  have hconstant' : Json.optional (kept.lookup "constant") Constant.ofJson? = some f.constant :=
    homits.defaulted f.nodup_keys (nodup_keys {}) rfl rfl
      (nullable_constant (by simpa using hconstant)) rfl
  have hmarkers' : defaulted (kept.lookup "markers") [] (Value.list? (Marker.read? kind?)) =
      some f.markers :=
    homits.defaulted f.nodup_keys (nodup_keys {}) rfl rfl (list?_markers hkind hmarkers) rfl
  rw [read?, record?_object hkept]
  simp [hname, htypeName, hstatic, hfinal, henumerator, hconstant', hmarkers']

end Field

theorem Field.stable_read? {kind? : Value → Option MarkerKind} (hkind : ReadsKinds kind?) :
    Stable (read? kind?) :=
  stable_record fun given given' h => by
    simp only [defaulted_alike stable_string (h _), defaulted_alike stable_bool (h _),
      optional_alike Constant.stable_ofJson? (h _), defaulted_alike (stable_markers hkind) (h _)]

/-! ## Methods -/

namespace Method

/-- The constants of a method: its default, and those on its markers. -/
def constants (m : Method) : List Constant :=
  m.default.toList ++ m.markers.flatMap Marker.constants

/-- The members of a method. -/
def members (m : Method) : List (String × Value) :=
  [("name", .string m.name), ("return_type", .string m.returnType),
    ("parameters", .ofStrings m.parameters), ("is_static", .bool m.isStatic),
    ("is_constructor", .bool m.isConstructor),
    ("default_value", orNull Constant.toJson m.default),
    ("markers", .array (m.markers.map Marker.toJson))]

theorem nodup_keys (m : Method) : (m.members.map (·.1)).Nodup := by
  simp [members]

/-- The method as JSON, where any keys may be left out that have their defaults. -/
def Abridged (m : Method) (v : Value) : Prop :=
  ∃ kept, Omits (members {}) m.members kept ∧ v = .object kept

theorem abridged_toJson (m : Method) : m.Abridged m.toJson :=
  ⟨m.members, .refl _ _, rfl⟩

variable {m : Method} (hconstants : ∀ c ∈ m.constants, c.hasFloat = false)

include hconstants

theorem tidy_of_abridged {v : Value} (h : m.Abridged v) : v.Tidy := by
  obtain ⟨kept, homits, rfl⟩ := h
  obtain ⟨hdefault, hmarkers⟩ := List.forall_mem_append.1 hconstants
  have hvalue := tidy_constant (o := m.default) (by simpa using hdefault)
  have hall := tidy_markers hmarkers
  refine homits.tidy (Value.tidy_object.2 ⟨m.nodup_keys, ?_⟩)
  simp only [members, List.forall_mem_cons]
  exact ⟨trivial, trivial, tidy_ofStrings _, trivial, trivial, hvalue, hall, nofun⟩

theorem read?_of_abridged {kind? : Value → Option MarkerKind} (hkind : ReadsKinds kind?)
    {v : Value} (h : m.Abridged v) : read? kind? v = some m := by
  obtain ⟨kept, homits, rfl⟩ := h
  obtain ⟨hdefault, hmarkers⟩ := List.forall_mem_append.1 hconstants
  have hkept : (kept.map (·.1)).Nodup := m.nodup_keys.sublist (homits.sublist.map _)
  have hname : defaulted (kept.lookup "name") "" Value.string? = some m.name :=
    homits.defaulted m.nodup_keys (nodup_keys {}) rfl rfl rfl rfl
  have hreturnType : defaulted (kept.lookup "return_type") "" Value.string? = some m.returnType :=
    homits.defaulted m.nodup_keys (nodup_keys {}) rfl rfl rfl rfl
  have hparameters : defaulted (kept.lookup "parameters") [] (Value.list? Value.string?) =
      some m.parameters :=
    homits.defaulted m.nodup_keys (nodup_keys {}) rfl rfl (list?_ofStrings m.parameters) rfl
  have hstatic : defaulted (kept.lookup "is_static") false Value.bool? = some m.isStatic :=
    homits.defaulted m.nodup_keys (nodup_keys {}) rfl rfl rfl rfl
  have hconstructor : defaulted (kept.lookup "is_constructor") false Value.bool? =
      some m.isConstructor :=
    homits.defaulted m.nodup_keys (nodup_keys {}) rfl rfl rfl rfl
  have hdefault' : Json.optional (kept.lookup "default_value") Constant.ofJson? = some m.default :=
    homits.defaulted m.nodup_keys (nodup_keys {}) rfl rfl
      (nullable_constant (by simpa using hdefault)) rfl
  have hmarkers' : defaulted (kept.lookup "markers") [] (Value.list? (Marker.read? kind?)) =
      some m.markers :=
    homits.defaulted m.nodup_keys (nodup_keys {}) rfl rfl (list?_markers hkind hmarkers) rfl
  rw [read?, record?_object hkept]
  simp [hname, hreturnType, hparameters, hstatic, hconstructor, hdefault', hmarkers']

end Method

theorem Method.stable_read? {kind? : Value → Option MarkerKind} (hkind : ReadsKinds kind?) :
    Stable (read? kind?) :=
  stable_record fun given given' h => by
    simp only [defaulted_alike stable_string (h _), defaulted_alike stable_bool (h _),
      defaulted_alike (stable_list stable_string) (h _),
      optional_alike Constant.stable_ofJson? (h _), defaulted_alike (stable_markers hkind) (h _)]

/-! ## Types -/

theorem Kind.ofJson?_text (k : Kind) : Kind.ofJson? (.string k.text) = some k := by
  cases k <;> rfl

theorem Kind.stable_ofJson? : Stable Kind.ofJson? := stable_caseName.bind _

namespace DeclaredType

/-- All constants of a type: those on its markers and those of its members. -/
def constants (t : DeclaredType) : List Constant :=
  t.markers.flatMap Marker.constants ++
    (t.fields.flatMap Field.constants ++ t.methods.flatMap Method.constants)

/-- The members of a type, with what is written for its fields and its methods. -/
def membersWith (t : DeclaredType) (fields methods : List Value) : List (String × Value) :=
  [("name", .string t.name), ("kind", .string t.kind.text),
    ("is_abstract", .bool t.declaredAbstract), ("interfaces", .ofStrings t.interfaces),
    ("superclass", orNull .string t.superclass),
    ("public_no_arg_constructor", .bool t.hasPublicConstructor),
    ("markers", .array (t.markers.map Marker.toJson)), ("fields", .array fields),
    ("methods", .array methods)]

theorem nodup_keys (t : DeclaredType) (fields methods : List Value) :
    ((t.membersWith fields methods).map (·.1)).Nodup := by
  simp [membersWith]

/-- The type as JSON, where any keys may be left out, of its fields and its methods as well, that
have their defaults. -/
def Abridged (t : DeclaredType) (v : Value) : Prop :=
  ∃ fields methods kept, List.Forall₂ Field.Abridged t.fields fields ∧
    List.Forall₂ Method.Abridged t.methods methods ∧
    Omits (membersWith {} [] []) (t.membersWith fields methods) kept ∧ v = .object kept

theorem abridged_toJson (t : DeclaredType) : t.Abridged t.toJson :=
  ⟨t.fields.map Field.toJson, t.methods.map Method.toJson, _,
    List.forall₂_map_right_iff.2 (List.forall₂_same.2 fun f _ => f.abridged_toJson),
    List.forall₂_map_right_iff.2 (List.forall₂_same.2 fun m _ => m.abridged_toJson),
    .refl _ _, rfl⟩

/-- The JSON that stands for a type: keys may be left out that have their defaults, and the keys of
every object, at any depth, may come in any order. -/
def Encodes (t : DeclaredType) (w : Value) : Prop := ∃ v, t.Abridged v ∧ v.Reordered w

theorem encodes_toJson (t : DeclaredType) : t.Encodes t.toJson :=
  ⟨t.toJson, t.abridged_toJson, .same _⟩

section Constants

variable {t : DeclaredType} (hconstants : ∀ c ∈ t.constants, c.hasFloat = false)

include hconstants

theorem forall_markers : ∀ c ∈ t.markers.flatMap Marker.constants, c.hasFloat = false :=
  (List.forall_mem_append.1 hconstants).1

theorem forall_field {f : Field} (hf : f ∈ t.fields) : ∀ c ∈ f.constants, c.hasFloat = false := by
  have h := (List.forall_mem_append.1 (List.forall_mem_append.1 hconstants).2).1
  exact fun c hc => h c (List.mem_flatMap.2 ⟨f, hf, hc⟩)

theorem forall_method {m : Method} (hm : m ∈ t.methods) :
    ∀ c ∈ m.constants, c.hasFloat = false := by
  have h := (List.forall_mem_append.1 (List.forall_mem_append.1 hconstants).2).2
  exact fun c hc => h c (List.mem_flatMap.2 ⟨m, hm, hc⟩)

theorem tidy_of_abridged {v : Value} (h : t.Abridged v) : v.Tidy := by
  obtain ⟨fields, methods, kept, hfields, hmethods, homits, rfl⟩ := h
  have hsuperclass : (orNull .string t.superclass).Tidy := tidy_orNull fun _ _ => trivial
  have hmarkers := tidy_markers (forall_markers hconstants)
  have hfields' : (Value.array fields).Tidy := Value.tidy_array.2 <|
    forall_mem_of_forall₂ hfields fun f hf _ => f.tidy_of_abridged (forall_field hconstants hf)
  have hmethods' : (Value.array methods).Tidy := Value.tidy_array.2 <|
    forall_mem_of_forall₂ hmethods fun m hm _ => m.tidy_of_abridged (forall_method hconstants hm)
  refine homits.tidy (Value.tidy_object.2 ⟨t.nodup_keys fields methods, ?_⟩)
  simp only [membersWith, List.forall_mem_cons]
  exact ⟨trivial, trivial, trivial, tidy_ofStrings _, hsuperclass, trivial, hmarkers, hfields',
    hmethods', nofun⟩

theorem read?_of_abridged {kind? : Value → Option MarkerKind} (hkind : ReadsKinds kind?)
    {v : Value} (h : t.Abridged v) : read? kind? v = some t := by
  obtain ⟨fields, methods, kept, hfields, hmethods, homits, rfl⟩ := h
  have hfull := t.nodup_keys fields methods
  have hdefault := nodup_keys {} [] []
  have hkept : (kept.map (·.1)).Nodup := hfull.sublist (homits.sublist.map _)
  have hname : defaulted (kept.lookup "name") "" Value.string? = some t.name :=
    homits.defaulted hfull hdefault rfl rfl rfl rfl
  have hkind' : defaulted (kept.lookup "kind") .classType Kind.ofJson? = some t.kind :=
    homits.defaulted hfull hdefault rfl rfl t.kind.ofJson?_text rfl
  have habstract : defaulted (kept.lookup "is_abstract") false Value.bool? =
      some t.declaredAbstract :=
    homits.defaulted hfull hdefault rfl rfl rfl rfl
  have hinterfaces : defaulted (kept.lookup "interfaces") [] (Value.list? Value.string?) =
      some t.interfaces :=
    homits.defaulted hfull hdefault rfl rfl (list?_ofStrings t.interfaces) rfl
  have hsuperclass : Json.optional (kept.lookup "superclass") Value.string? = some t.superclass :=
    homits.defaulted hfull hdefault rfl rfl (optional_text t.superclass) rfl
  have hconstructor : defaulted (kept.lookup "public_no_arg_constructor") false Value.bool? =
      some t.hasPublicConstructor :=
    homits.defaulted hfull hdefault rfl rfl rfl rfl
  have hmarkers : defaulted (kept.lookup "markers") [] (Value.list? (Marker.read? kind?)) =
      some t.markers :=
    homits.defaulted hfull hdefault rfl rfl (list?_markers hkind (forall_markers hconstants)) rfl
  have hreadFields : Value.list? (Field.read? kind?) (.array fields) = some t.fields := by
    have hall := (List.forall₂_and_left t.fields fields).2 ⟨fun f hf => hf, hfields⟩
    exact mapM_eq_some_of_forall₂ <| hall.imp fun f v hfv =>
      f.read?_of_abridged (forall_field hconstants hfv.1) hkind hfv.2
  have hreadMethods : Value.list? (Method.read? kind?) (.array methods) = some t.methods := by
    have hall := (List.forall₂_and_left t.methods methods).2 ⟨fun m hm => hm, hmethods⟩
    exact mapM_eq_some_of_forall₂ <| hall.imp fun m v hmv =>
      m.read?_of_abridged (forall_method hconstants hmv.1) hkind hmv.2
  have hfields' : defaulted (kept.lookup "fields") [] (Value.list? (Field.read? kind?)) =
      some t.fields :=
    homits.defaulted hfull hdefault rfl rfl hreadFields rfl
  have hmethods' : defaulted (kept.lookup "methods") [] (Value.list? (Method.read? kind?)) =
      some t.methods :=
    homits.defaulted hfull hdefault rfl rfl hreadMethods rfl
  rw [read?, record?_object hkept]
  simp [hname, hkind', habstract, hinterfaces, hsuperclass, hconstructor, hmarkers, hfields',
    hmethods']

end Constants

end DeclaredType

theorem DeclaredType.stable_read? {kind? : Value → Option MarkerKind} (hkind : ReadsKinds kind?) :
    Stable (read? kind?) :=
  stable_record fun given given' h => by
    simp only [defaulted_alike stable_string (h _), defaulted_alike Kind.stable_ofJson? (h _),
      defaulted_alike stable_bool (h _), defaulted_alike (stable_list stable_string) (h _),
      optional_alike stable_string (h _), defaulted_alike (stable_markers hkind) (h _),
      defaulted_alike (stable_list (Field.stable_read? hkind)) (h _),
      defaulted_alike (stable_list (Method.stable_read? hkind)) (h _)]

namespace DeclaredType

variable {t : DeclaredType} (hconstants : ∀ c ∈ t.constants, c.hasFloat = false)

include hconstants

theorem tidy_of_encodes {w : Value} (h : t.Encodes w) : w.Tidy := by
  obtain ⟨v, hv, hvw⟩ := h
  exact Value.Alike.tidy ⟨tidy_of_abridged hconstants hv, hvw⟩

theorem read?_of_encodes {kind? : Value → Option MarkerKind} (hkind : ReadsKinds kind?)
    {w : Value} (h : t.Encodes w) : read? kind? w = some t := by
  obtain ⟨v, hv, hvw⟩ := h
  rw [stable_read? hkind v w ⟨tidy_of_abridged hconstants hv, hvw⟩,
    read?_of_abridged hconstants hkind hv]

end DeclaredType

end Metatype
