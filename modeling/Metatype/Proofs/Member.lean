import Metatype.Collector
import Metatype.Proofs.Mapping

/-!
# What a member contributes

A pending attribute is settled to an attribute or to an error. Here the attribute is given as a
function of the member, field by field, and settling is compared with it.

* `Reader.memberAttribute`: the attribute of a member that is accepted. It depends on the kind and the
  name of the type, the prefix of the keys, the shorthand key and the member.
* `Reader.memberProblems`: the problems that are reported for a member.
* `Reader.yields_settle`: settling a member adds this attribute, if the member is accepted, and
  reports these problems.
* `Reader.yields_settleAll`: so do the members of a type, one after another.
-/

namespace Metatype

open Reporting

/-! ## Markers on a member -/

def Marker.attribute? : Marker → Option AttributeMarker
  | .attribute m => some m
  | _ => none

/-- The extension attributes that a marker contributes. -/
def Marker.extension? (recognizer : Recognizer) : Marker → Option Extension
  | .foreign m => recognizer m
  | _ => none

/-- The last attribute marker on a member. -/
def Method.marker? (m : Method) : Option AttributeMarker :=
  (m.markers.filterMap Marker.attribute?).getLast?

/-- The extension attributes of the markers on a member, in order. -/
def Method.extensions (recognizer : Recognizer) (m : Method) : List Extension :=
  m.markers.filterMap (Marker.extension? recognizer)

/-- The pending attribute of a member with its markers and its default. -/
def Method.pending (recognizer : Recognizer) (m : Method) : Pending :=
  { Pending.ofMethod m with
    marker := m.marker?, default := m.default, extensions := m.extensions recognizer }

/-! ## Members of a type -/

/-- Whether a method that is not static becomes an attribute. -/
def Method.isElement (m : Method) : Bool := !m.isConstructor && m.parameters.isEmpty

namespace DeclaredType

/-- The methods that are not static. -/
def members (t : DeclaredType) : List Method := t.methods.filter (!·.isStatic)

/-- The members without parameters that are no constructors. -/
def elements (t : DeclaredType) : List Method := t.members.filter (·.isElement)

def constructors (t : DeclaredType) : List Method := t.members.filter (·.isConstructor)

def parameterized (t : DeclaredType) : List Method :=
  t.members.filter fun m => !m.isConstructor && !m.parameters.isEmpty

end DeclaredType

/-! ## The attribute of a member -/

namespace Reader

/-- The choices that an element type offers: the constants of an enumeration. -/
def offered (r : Reader) (element : String) : List Choice :=
  if TypeName.isPrimitive element then []
  else
    match r.source.lookup element with
    | .found t => if t.isEnum then t.enumerators.map fun name => ⟨name, name⟩ else []
    | _ => []

/-- Whether an element type is an annotation outside of the platform. -/
def isNestedElement (r : Reader) (element : String) : Bool :=
  !(TypeName.isPrimitive element || TypeName.isPlatform r.platform element) &&
    match r.source.lookup element with
    | .found t => t.isAnnotationType
    | _ => false

/-- The mapping of the return type of a member. -/
def mapped (r : Reader) (owner : String) (m : Method) : TypeMapping :=
  value (r.mapType owner m.name m.returnType)

theorem mapped_eq (r : Reader) (owner : String) (m : Method) :
    r.mapped owner m =
      ⟨(r.returnVerdict owner m.name m.returnType).valueType,
        (TypeMapping.shape r.source m.returnType.toList).cardinality,
        String.ofList (TypeMapping.shape r.source m.returnType.toList).element⟩ :=
  (r.yields_returnVerdict owner m.name m.returnType).value_eq

/-- The defaults that the default of an annotation element gives. -/
def elementDefaults (r : Reader) (m : Method) : Option (List String) :=
  match m.default with
  | some value => if r.isNestedElement m.elementType then none else some value.properties
  | none => none

/-- The attribute of an element. What its last attribute marker sets goes before what is derived. -/
def memberAttribute (r : Reader) (kind : Kind) (owner : String)
    (keyPrefix shorthand : Option String) (m : Method) : Attribute where
  id := keyPrefix.getD "" ++ (memberKey shorthand m.name).key
  name := (m.marker?.bind (·.name)).getD (label m.name)
  description := m.marker?.bind (·.description)
  valueType := (m.marker?.bind (·.valueType)).or (r.mapped owner m).valueType
  cardinality :=
    ((m.marker?.bind (·.cardinality)).map Cardinality.mk).getD (r.mapped owner m).cardinality
  min := m.marker?.bind (·.min)
  max := m.marker?.bind (·.max)
  defaults :=
    (m.marker?.bind (·.defaults)).or
      (if kind = .annotationType then r.elementDefaults m else none)
  required := (m.marker?.bind (·.required)).getD true
  choices := (m.marker?.bind (·.choices)).getD (r.offered (r.mapped owner m).element)
  extensions := m.extensions r.recognizer

/-! ## The problems of a member -/

/-- The problem of a source that fails on the element type when choices are looked for. -/
def choiceProblems (r : Reader) (owner member element : String) : List Diagnostic :=
  if TypeName.isPrimitive element then []
  else
    match r.source.lookup element with
    | .failed f =>
      [⟨.sourceFailure, .error,
        "AD for " ++ owner ++ "." ++ member ++ " can not parse option values from type " ++ element,
        [f.message]⟩]
    | _ => []

/-- The warning that the default of a member is left out. -/
def nestedProblem (member element : String) : Diagnostic :=
  ⟨.annotationNested, .warning,
    "Nested annotation type found in member " ++ member ++ ", " ++ element, []⟩

/-- The problems with the element type when a default is taken over. -/
def defaultProblems (r : Reader) (member element : String) : List Diagnostic :=
  if TypeName.isPrimitive element || TypeName.isPlatform r.platform element then []
  else
    match r.source.lookup element with
    | .found t => if t.isAnnotationType then [nestedProblem member element] else []
    | .unknown => []
    | .failed f =>
      [⟨.sourceFailure, .error,
        "Exception looking at annotation type default for element " ++ member ++ " with type " ++
          element,
        [f.message]⟩]

/-- Whether the default of an element is looked at: that of an annotation element whose marker sets
no defaults. -/
def takesDefault (kind : Kind) (m : Method) : Bool :=
  (m.marker?.bind (·.defaults)).isNone && kind = .annotationType && m.default.isSome

/-- The problems of an element. -/
def elementProblems (r : Reader) (kind : Kind) (owner : String) (m : Method) : List Diagnostic :=
  added (r.mapType owner m.name m.returnType) ++
    r.choiceProblems owner m.name (r.mapped owner m).element ++
    if takesDefault kind m then r.defaultProblems m.name m.elementType else []

end Reader

namespace DeclaredType

/-- The problem with a constructor. -/
def constructorProblem (t : DeclaredType) (m : Method) : Diagnostic :=
  ⟨.constructorFound, .error,
    "Constructor " ++ m.name ++ " for " ++ t.name ++ "." ++ m.name ++
      " found; only interfaces and annotations allowed for OCDs", []⟩

/-- The problem with a member that has parameters. -/
def parameterizedProblem (t : DeclaredType) (m : Method) : Diagnostic :=
  ⟨.parameterizedMember, .error,
    "Element " ++ m.name ++ " for " ++ t.name ++ "." ++ m.name ++
      " has parameters; only no-parameter elements in an OCD interface allowed", []⟩

end DeclaredType

/-- The problems of a member: constructors and members with parameters are errors. -/
def Reader.memberProblems (r : Reader) (t : DeclaredType) (m : Method) : List Diagnostic :=
  if m.isConstructor then [t.constructorProblem m]
  else if m.parameters.isEmpty then r.elementProblems t.kind t.name m
  else [t.parameterizedProblem m]

/-! ## Drafts -/

namespace Draft

def attributes (d : Draft) : List Attribute := (d.objectClass.map (·.attributes)).getD []

@[simp]
theorem keyPrefix_raise (d : Draft) (wanted : Revision) :
    (d.raise wanted).keyPrefix = d.keyPrefix := rfl

@[simp]
theorem keyPrefix_push (d : Draft) (a : Attribute) : (d.push a).keyPrefix = d.keyPrefix := rfl

@[simp]
theorem keyPrefix_extend (d : Draft) (extensions : List Extension) :
    (d.extend extensions).keyPrefix = d.keyPrefix := rfl

@[simp]
theorem isSome_raise (d : Draft) (wanted : Revision) :
    (d.raise wanted).objectClass.isSome = d.objectClass.isSome := by
  simp [raise]

@[simp]
theorem isSome_push (d : Draft) (a : Attribute) :
    (d.push a).objectClass.isSome = d.objectClass.isSome := by
  simp [push]

@[simp]
theorem isSome_extend (d : Draft) (extensions : List Extension) :
    (d.extend extensions).objectClass.isSome = d.objectClass.isSome := by
  simp [extend]

@[simp]
theorem attributes_raise (d : Draft) (wanted : Revision) :
    (d.raise wanted).attributes = d.attributes := by
  simp [attributes, raise, ObjectClass.raise, Function.comp_def]

@[simp]
theorem attributes_extend (d : Draft) (extensions : List Extension) :
    (d.extend extensions).attributes = d.attributes := by
  simp [attributes, extend, Function.comp_def]

theorem attributes_push {d : Draft} (h : d.objectClass.isSome) (a : Attribute) :
    (d.push a).attributes = d.attributes ++ [a] := by
  obtain ⟨o, ho⟩ := Option.isSome_iff_exists.1 h
  simp [attributes, push, ho, ObjectClass.push]

theorem prefixed_eq (d : Draft) (key : String) : d.prefixed key = d.keyPrefix.getD "" ++ key := by
  unfold prefixed
  cases d.keyPrefix with
  | none => simp
  | some p => rfl

end Draft

/-! ## Settling -/

namespace Reader

theorem yields_choices (r : Reader) (owner member element : String) :
    Yields (r.choices owner member element) (r.offered element)
      (r.choiceProblems owner member element) := by
  unfold choices offered choiceProblems
  split
  · exact yields_pure _
  · cases r.source.lookup element with
    | found t => exact yields_pure _
    | unknown => exact yields_pure _
    | failed f => exact (yields_failure _ _ _).then_pure _

theorem yields_defaults (r : Reader) (member element : String) (value : Constant) :
    Yields (r.defaults member element value)
      (if r.isNestedElement element then none else some value.properties)
      (r.defaultProblems member element) := by
  unfold defaults isNestedElement defaultProblems
  split
  · rename_i h
    rw [h]
    exact yields_pure _
  · rename_i h
    rw [Bool.not_eq_true] at h
    rw [h]
    cases r.source.lookup element with
    | found t =>
      cases ht : t.isAnnotationType with
      | true =>
        simp only [ht, Bool.not_false, Bool.and_self, if_true]
        exact (yields_warning _ _).then_pure _
      | false =>
        simp only [ht, Bool.and_false, Bool.false_eq_true, if_false]
        exact yields_pure _
    | unknown => exact yields_pure _
    | failed f => exact (yields_failure _ _ _).then_pure _

/-- The attribute before the default is looked at. -/
def markedAttribute (r : Reader) (owner id : String) (m : Method) : Attribute :=
  let derived : Attribute :=
    { id, name := label m.name, description := none, valueType := (r.mapped owner m).valueType,
      cardinality := (r.mapped owner m).cardinality, min := none, max := none, defaults := none,
      required := true, choices := r.offered (r.mapped owner m).element,
      extensions := m.extensions r.recognizer }
  match m.marker? with
  | some marker => derived.override marker
  | none => derived

theorem defaults_markedAttribute (r : Reader) (owner id : String) (m : Method) :
    (r.markedAttribute owner id m).defaults = m.marker?.bind (·.defaults) := by
  unfold markedAttribute
  cases m.marker? with
  | none => rfl
  | some marker => simp [Attribute.override]

/-- Up to its defaults, the attribute is what the last marker makes of the derived one. -/
theorem memberAttribute_eq (r : Reader) (kind : Kind) (owner : String)
    (keyPrefix shorthand : Option String) (m : Method) :
    r.memberAttribute kind owner keyPrefix shorthand m =
      { r.markedAttribute owner (keyPrefix.getD "" ++ (memberKey shorthand m.name).key) m with
        defaults := (m.marker?.bind (·.defaults)).or
          (if kind = .annotationType then r.elementDefaults m else none) } := by
  unfold memberAttribute markedAttribute
  cases m.marker? with
  | none => simp
  | some marker => simp [Attribute.override]

/-- An attribute with the defaults of its member, unless it has defaults already. -/
def complete (r : Reader) (t : DeclaredType) (m : Method) (a : Attribute) : Reporting Attribute :=
  match a.defaults, t.isAnnotationType, m.default with
  | none, true, some value =>
    return { a with defaults := ← r.defaults m.name m.elementType value }
  | _, _, _ => return a

theorem yields_complete (r : Reader) (t : DeclaredType) (m : Method) (a : Attribute) :
    Yields (r.complete t m a)
      { a with defaults :=
          a.defaults.or (if t.kind = .annotationType then r.elementDefaults m else none) }
      (if a.defaults.isNone && t.kind = .annotationType && m.default.isSome then
        r.defaultProblems m.name m.elementType else []) := by
  unfold complete elementDefaults DeclaredType.isAnnotationType
  cases hset : a.defaults with
  | some texts =>
    have hkept : { a with defaults := some texts } = a := by rw [← hset]
    rw [Option.some_or, hkept]
    exact yields_pure a
  | none =>
    have hkept : { a with defaults := none } = a := by rw [← hset]
    rw [Option.none_or]
    by_cases hkind : t.kind = .annotationType
    · cases m.default with
      | some value =>
        simp only [hkind, decide_true, if_true, Option.isNone_none, Option.isSome_some,
          Bool.and_self]
        exact (r.yields_defaults m.name m.elementType value).map _
      | none =>
        simp only [hkind, decide_true, if_true, Option.isSome_none, Bool.and_false,
          Bool.false_eq_true, if_false, hkept]
        exact yields_pure a
    · simp only [hkind, decide_false, if_false, Bool.and_false, Bool.false_and,
        Bool.false_eq_true, hkept]
      exact yields_pure a

theorem yields_attributeOf (r : Reader) (t : DeclaredType) (keyPrefix shorthand : Option String)
    (m : Method) :
    Yields
      (r.attributeOf t (keyPrefix.getD "" ++ (memberKey shorthand m.name).key)
        (m.pending r.recognizer))
      (r.memberAttribute t.kind t.name keyPrefix shorthand m)
      (r.elementProblems t.kind t.name m) := by
  have hmapping : Yields (r.mapType t.name m.name m.returnType) (r.mapped t.name m)
      (added (r.mapType t.name m.name m.returnType)) := r.yields_mapType_self _ _ _
  have hchoices := r.yields_choices t.name m.name (r.mapped t.name m).element
  have hcomplete := r.yields_complete t m
    (r.markedAttribute t.name (keyPrefix.getD "" ++ (memberKey shorthand m.name).key) m)
  rw [defaults_markedAttribute, ← memberAttribute_eq] at hcomplete
  rw [elementProblems, List.append_assoc]
  exact hmapping.bind (hchoices.bind hcomplete)

/-! ## The members of a type -/

/-- The draft after a member has been settled. -/
def settled (r : Reader) (t : DeclaredType) (shorthand : Option String) (d : Draft) (m : Method) :
    Draft :=
  if m.isElement then
    let raised := match (memberKey shorthand m.name).requires with
      | some wanted => d.raise wanted
      | none => d
    raised.push (r.memberAttribute t.kind t.name d.keyPrefix shorthand m)
  else d

theorem yields_settle (r : Reader) (t : DeclaredType) (shorthand : Option String) (d : Draft)
    (m : Method) :
    Yields (r.settle t shorthand d (m.pending r.recognizer)) (r.settled t shorthand d m)
      (r.memberProblems t m) := by
  unfold settle settled memberProblems Method.isElement
  cases hconstructor : m.isConstructor with
  | true =>
    have hpending : (m.pending r.recognizer).isConstructor = true := hconstructor
    rw [if_pos hpending]
    exact (yields_error _ _).then_pure _
  | false =>
    have hpending : ¬(m.pending r.recognizer).isConstructor = true := by
      change ¬m.isConstructor = true
      simp [hconstructor]
    rw [if_neg hpending]
    cases hparameters : m.parameters with
    | cons p rest =>
      have hsome : 0 < (m.pending r.recognizer).parameters := by
        change 0 < m.parameters.length
        simp [hparameters]
      rw [if_pos hsome]
      exact (yields_error _ _).then_pure _
    | nil =>
      have hnone : ¬0 < (m.pending r.recognizer).parameters := by
        change ¬0 < m.parameters.length
        simp [hparameters]
      rw [if_neg hnone]
      have hattribute := r.yields_attributeOf t d.keyPrefix shorthand m
      rw [← Draft.prefixed_eq] at hattribute
      have hname : (m.pending r.recognizer).name = m.name := rfl
      simp only [hname, Bool.not_false, List.isEmpty_nil, Bool.and_self, if_true,
        Bool.false_eq_true, if_false]
      cases (memberKey shorthand m.name).requires with
      | none => exact hattribute.map _
      | some wanted => exact hattribute.map _

theorem yields_settleAll (r : Reader) (t : DeclaredType) (shorthand : Option String) (d : Draft)
    (members : List Method) :
    Yields ((members.map (Method.pending r.recognizer)).foldlM (r.settle t shorthand) d)
      (members.foldl (r.settled t shorthand) d) (members.flatMap (r.memberProblems t)) := by
  rw [List.foldlM_map]
  exact yields_foldlM (r.yields_settle t shorthand) members d

theorem keyPrefix_settled (r : Reader) (t : DeclaredType) (shorthand : Option String) (d : Draft)
    (m : Method) : (r.settled t shorthand d m).keyPrefix = d.keyPrefix := by
  unfold settled
  split
  · cases (memberKey shorthand m.name).requires <;> rfl
  · rfl

theorem isSome_settled (r : Reader) (t : DeclaredType) (shorthand : Option String) (d : Draft)
    (m : Method) : (r.settled t shorthand d m).objectClass.isSome = d.objectClass.isSome := by
  unfold settled
  split
  · cases (memberKey shorthand m.name).requires <;> simp
  · rfl

/-- Settling an element adds its attribute after the others. -/
theorem attributes_settled {r : Reader} {t : DeclaredType} {d : Draft}
    (h : d.objectClass.isSome = true) {m : Method} (hm : m.isElement = true)
    (shorthand : Option String) :
    (r.settled t shorthand d m).attributes =
      d.attributes ++ [r.memberAttribute t.kind t.name d.keyPrefix shorthand m] := by
  rw [settled, if_pos hm]
  cases (memberKey shorthand m.name).requires with
  | none => exact Draft.attributes_push h _
  | some wanted =>
    rw [Draft.attributes_push (by simpa using h), Draft.attributes_raise]

/-- Settling members one after another keeps the prefix and the presence of an object class, and
adds the attributes of the elements. -/
theorem settleAll_attributes (r : Reader) (t : DeclaredType) (shorthand : Option String)
    (members : List Method) {d : Draft} (h : d.objectClass.isSome = true) :
    (members.foldl (r.settled t shorthand) d).keyPrefix = d.keyPrefix ∧
      (members.foldl (r.settled t shorthand) d).objectClass.isSome = true ∧
      (members.foldl (r.settled t shorthand) d).attributes =
        d.attributes ++ (members.filter (·.isElement)).map
          (r.memberAttribute t.kind t.name d.keyPrefix shorthand) := by
  induction members generalizing d with
  | nil => exact ⟨rfl, h, by simp⟩
  | cons m rest ih =>
    obtain ⟨hkey, hsome, hattributes⟩ := ih (d := r.settled t shorthand d m)
      (by rw [isSome_settled]; exact h)
    rw [keyPrefix_settled] at hkey hattributes
    rw [List.foldl_cons]
    refine ⟨hkey, hsome, ?_⟩
    rw [hattributes]
    by_cases hm : m.isElement = true
    · rw [attributes_settled h hm, List.filter_cons_of_pos hm, List.map_cons, List.append_assoc]
      rfl
    · have hkept : r.settled t shorthand d m = d := by
        rw [settled, if_neg hm]
      rw [hkept, List.filter_cons_of_neg hm]

/-! ## Codes -/

theorem code_of_mem_choiceProblems (r : Reader) (owner member element : String) :
    ∀ d ∈ r.choiceProblems owner member element, d.code = .sourceFailure := by
  unfold choiceProblems
  split
  · simp
  · split <;> simp

theorem code_of_mem_defaultProblems (r : Reader) (member element : String) :
    ∀ d ∈ r.defaultProblems member element,
      d.code = .annotationNested ∨ d.code = .sourceFailure := by
  unfold defaultProblems
  split
  · simp
  · split
    · split <;> simp [nestedProblem]
    · simp
    · simp

/-- The problems of an element are those of the mapping, of a failing source, or of a default that
is an annotation. -/
theorem code_of_mem_elementProblems (r : Reader) (kind : Kind) (owner : String) (m : Method) :
    ∀ d ∈ r.elementProblems kind owner m, d.code = .annotationNested ∨ d.code ∈ mappingCodes := by
  have hfailure : Code.sourceFailure ∈ mappingCodes := by simp [mappingCodes]
  intro d hd
  rw [elementProblems, List.append_assoc] at hd
  rcases List.mem_append.1 hd with hd | hd
  · exact Or.inr (r.code_of_mem_mapType _ _ _ d hd)
  rcases List.mem_append.1 hd with hd | hd
  · rw [r.code_of_mem_choiceProblems _ _ _ d hd]
    exact Or.inr hfailure
  · split at hd
    · rcases r.code_of_mem_defaultProblems _ _ d hd with hcode | hcode
      · exact Or.inl hcode
      · rw [hcode]
        exact Or.inr hfailure
    · simp at hd

/-- The errors that reject a member are not among the problems of an element. -/
theorem filter_elementProblems (r : Reader) (kind : Kind) (owner : String) (m : Method)
    (code : Code) (hcode : code ∉ Code.annotationNested :: mappingCodes) :
    (r.elementProblems kind owner m).filter (·.code = code) = [] := by
  refine filter_code_eq_nil fun d hd heq => hcode ?_
  rw [← heq]
  exact List.mem_cons.2 (r.code_of_mem_elementProblems kind owner m d hd)

theorem constructor_memberProblems (r : Reader) (t : DeclaredType) (m : Method) :
    (r.memberProblems t m).filter (·.code = .constructorFound) =
      if m.isConstructor then [t.constructorProblem m] else [] := by
  have helement := r.filter_elementProblems t.kind t.name m .constructorFound (by decide)
  unfold memberProblems
  cases m.isConstructor with
  | true => simp [DeclaredType.constructorProblem]
  | false =>
    cases m.parameters.isEmpty with
    | true => simpa using helement
    | false => simp [DeclaredType.parameterizedProblem]

theorem parameterized_memberProblems (r : Reader) (t : DeclaredType) (m : Method) :
    (r.memberProblems t m).filter (·.code = .parameterizedMember) =
      if !m.isConstructor && !m.parameters.isEmpty then [t.parameterizedProblem m] else [] := by
  have helement := r.filter_elementProblems t.kind t.name m .parameterizedMember (by decide)
  unfold memberProblems
  cases m.isConstructor with
  | true => simp [DeclaredType.constructorProblem]
  | false =>
    cases m.parameters.isEmpty with
    | true => simpa using helement
    | false => simp [DeclaredType.parameterizedProblem]

end Reader

end Metatype
