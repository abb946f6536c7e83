import Metatype.Proofs.Reporting
import Metatype.Proofs.TypeText

/-!
# Mapping of type texts

What the mapping of return types gives on the texts of types.

* `Reader.verdict`: the value type of an element type and the problems reported for it.
* `Reader.returnVerdict`, `Reader.yields_returnVerdict`: those of a return type, whatever its text.
* `TypeMapping.shape_render`: a type text is taken apart along its structure.
* `Reader.mapType_render`: the mapping of a type and of an array of it.
-/

namespace Metatype

open Reporting

namespace Reader

/-! ## Elements -/

/-- The value type of an element type, and the problems that are reported for it. -/
structure Verdict where
  valueType : Option ValueType
  problems : List Diagnostic
  deriving DecidableEq, Repr

def writesAsString (r : Reader) (t : DeclaredType) : Bool :=
  t.isEnum || !t.isAbstract || (t.isInterface && r.options.nested)

/-- The verdict on a name: value types are known by name, other types are strings if they can be
written so. -/
def verdict (r : Reader) (name : String) : Verdict :=
  match TypeMapping.valueType? name with
  | some v => ⟨some v, []⟩
  | none =>
    match r.source.lookup name with
    | .found t =>
      if r.writesAsString t then ⟨some .string, []⟩
      else if t.isInterface then
        ⟨none, [⟨.nestedTypeNotEnabled, .error,
          "Nested metatype only allowed with option: nested type " ++ name, []⟩]⟩
      else
        ⟨none, [⟨.abstractType, .error,
          "Abstract classes not allowed as interface method return values: " ++ name, []⟩]⟩
    | .unknown =>
      ⟨none, [⟨.unresolvedType, .error, "Could not find class for return type " ++ name, []⟩]⟩
    | .failed f =>
      ⟨none, [⟨.sourceFailure, .error, "Could not examine class for return type " ++ name,
        [f.message]⟩]⟩

theorem yields_acceptsAsString (r : Reader) {name : String}
    (h : TypeMapping.valueType? name = none) :
    ∃ accepted, Yields (r.acceptsAsString name) accepted (r.verdict name).problems ∧
      (r.verdict name).valueType = if accepted then some .string else none := by
  unfold acceptsAsString verdict
  rw [h]
  cases hf : r.source.lookup name with
  | found t =>
    dsimp only
    by_cases hs : r.writesAsString t = true
    · have hs' : (t.isEnum || !t.isAbstract || (t.isInterface && r.options.nested)) = true := hs
      rw [if_pos hs, if_pos hs']
      exact ⟨true, yields_pure _, rfl⟩
    · have hs' : ¬(t.isEnum || !t.isAbstract || (t.isInterface && r.options.nested)) = true := hs
      rw [if_neg hs, if_neg hs']
      split
      · exact ⟨false, (yields_error _ _).then_pure _, rfl⟩
      · exact ⟨false, (yields_error _ _).then_pure _, rfl⟩
  | unknown => exact ⟨false, (yields_error _ _).then_pure _, rfl⟩
  | failed f => exact ⟨false, (yields_failure _ _ _).then_pure _, rfl⟩

theorem yields_elementType_array (r : Reader) {name : String}
    (h : (TypeName.dropArrayMark? name.toList).isSome = true) :
    Yields (r.elementType name) none
      [⟨.nestedArray, .error, "Can only handle array of depth one, nested type " ++ name, []⟩] := by
  unfold elementType
  rw [if_pos h]
  exact (yields_error _ _).then_pure _

/-- On a name without an array mark the verdict is what is given and reported. -/
theorem yields_elementType (r : Reader) {name : String}
    (h : TypeName.dropArrayMark? name.toList = none) :
    Yields (r.elementType name) (r.verdict name).valueType (r.verdict name).problems := by
  unfold elementType
  rw [h]
  cases hv : TypeMapping.valueType? name with
  | some v =>
    have hverdict : r.verdict name = ⟨some v, []⟩ := by
      rw [verdict, hv]
    rw [hverdict]
    exact yields_pure _
  | none =>
    obtain ⟨accepted, hrun, hvalue⟩ := r.yields_acceptsAsString hv
    rw [hvalue, ← List.append_nil (r.verdict name).problems]
    refine hrun.bind ?_
    cases accepted with
    | true => exact yields_pure _
    | false => exact yields_pure _

/-- The codes of the problems that a mapping can report. -/
def mappingCodes : List Code :=
  [.arrayOfCollection, .nestedArray, .abstractType, .nestedTypeNotEnabled, .unresolvedType,
    .sourceFailure]

/-- A mapping reports one error if there is no value type, and nothing otherwise. -/
structure Explains (problems : List Diagnostic) (v : Option ValueType) : Prop where
  isError : ∀ d ∈ problems, d.severity = .error ∧ d.code ∈ mappingCodes
  length_eq : problems.length = if v.isNone then 1 else 0

theorem explains_some (v : ValueType) : Explains [] (some v) := ⟨by simp, rfl⟩

theorem explains_none {code : Code} (h : code ∈ mappingCodes) (message : String)
    (context : List String) : Explains [⟨code, .error, message, context⟩] none := by
  refine ⟨?_, rfl⟩
  intro d hd
  rw [List.mem_singleton.1 hd]
  exact ⟨rfl, h⟩

theorem explains_verdict (r : Reader) (name : String) :
    Explains (r.verdict name).problems (r.verdict name).valueType := by
  unfold verdict
  split
  · exact explains_some _
  · split
    · split
      · exact explains_some _
      · split
        · exact explains_none (by simp [mappingCodes]) _ _
        · exact explains_none (by simp [mappingCodes]) _ _
    · exact explains_none (by simp [mappingCodes]) _ _
    · exact explains_none (by simp [mappingCodes]) _ _

/-- The verdict on an element type: one with an array mark is rejected unseen. -/
def elementVerdict (r : Reader) (name : String) : Verdict :=
  if (TypeName.dropArrayMark? name.toList).isSome then
    ⟨none,
      [⟨.nestedArray, .error, "Can only handle array of depth one, nested type " ++ name, []⟩]⟩
  else r.verdict name

theorem yields_elementVerdict (r : Reader) (name : String) :
    Yields (r.elementType name) (r.elementVerdict name).valueType
      (r.elementVerdict name).problems := by
  unfold elementVerdict
  split
  · rename_i hmark
    exact r.yields_elementType_array hmark
  · rename_i hmark
    exact r.yields_elementType (Option.not_isSome_iff_eq_none.1 hmark)

theorem explains_elementVerdict (r : Reader) (name : String) :
    Explains (r.elementVerdict name).problems (r.elementVerdict name).valueType := by
  unfold elementVerdict
  split
  · exact explains_none (by simp [mappingCodes]) _ _
  · exact r.explains_verdict name

/-- The verdict on the return type of a member: an array of collections is rejected, and otherwise
it is the verdict on the element. -/
def returnVerdict (r : Reader) (owner member returnType : String) : Verdict :=
  let shape := TypeMapping.shape r.source returnType.toList
  if shape.isArrayOfCollections then
    ⟨none, [⟨.arrayOfCollection, .error, arrayOfCollections owner member returnType, []⟩]⟩
  else r.elementVerdict (String.ofList shape.element)

/-- The mapping of any text: the value type is that of the verdict, the rest that of the shape. -/
theorem yields_returnVerdict (r : Reader) (owner member returnType : String) :
    Yields (r.mapType owner member returnType)
      ⟨(r.returnVerdict owner member returnType).valueType,
        (TypeMapping.shape r.source returnType.toList).cardinality,
        String.ofList (TypeMapping.shape r.source returnType.toList).element⟩
      (r.returnVerdict owner member returnType).problems := by
  unfold mapType returnVerdict
  dsimp only
  split
  · exact (yields_error _ _).then_pure _
  · exact (r.yields_elementVerdict _).map _

theorem explains_returnVerdict (r : Reader) (owner member returnType : String) :
    Explains (r.returnVerdict owner member returnType).problems
      (r.returnVerdict owner member returnType).valueType := by
  unfold returnVerdict
  dsimp only
  split
  · exact explains_none (by simp [mappingCodes]) _ _
  · exact r.explains_elementVerdict _

theorem yields_mapType_self (r : Reader) (owner member returnType : String) :
    Yields (r.mapType owner member returnType) (value (r.mapType owner member returnType))
      (added (r.mapType owner member returnType)) :=
  (r.yields_returnVerdict owner member returnType).self

theorem explains_mapType (r : Reader) (owner member returnType : String) :
    Explains (added (r.mapType owner member returnType))
      (value (r.mapType owner member returnType)).valueType := by
  have hyields := r.yields_returnVerdict owner member returnType
  rw [hyields.added_eq, hyields.value_eq]
  exact r.explains_returnVerdict owner member returnType

theorem code_of_mem_mapType (r : Reader) (owner member returnType : String) :
    ∀ d ∈ added (r.mapType owner member returnType), d.code ∈ mappingCodes :=
  fun d hd => ((r.explains_mapType owner member returnType).isError d hd).2

end Reader

/-! ## Shapes -/

namespace TypeMapping

theorem shape_marked (s : Source) {text inner : List Char}
    (h : TypeName.dropArrayMark? (Text.trim text) = some inner) :
    shape s text =
      match element? s inner with
      | some element => ⟨TypeName.beforeArguments element, .vector, true⟩
      | none => ⟨TypeName.beforeArguments inner, .unboundedArray, false⟩ := by
  simp only [shape, h]
  rfl

theorem shape_unmarked (s : Source) {text : List Char}
    (h : TypeName.dropArrayMark? (Text.trim text) = none) :
    shape s text =
      match element? s (Text.trim text) with
      | some element => ⟨TypeName.beforeArguments element, .vector, false⟩
      | none => ⟨TypeName.beforeArguments (Text.trim text), .scalar, false⟩ := by
  simp only [shape, h]
  rfl

/-- A type text without blanks around it and without one array mark at its end. -/
def unmarked (text : List Char) : List Char :=
  (TypeName.dropArrayMark? (Text.trim text)).getD (Text.trim text)

/-- The name before the type arguments of a type text. A shape asks whether it is a collection. -/
def genericName? (text : List Char) : Option (List Char) := (generic? (unmarked text)).map (·.1)

/-- Of a source a shape takes only whether the name before the type arguments is a collection. -/
theorem shape_congr_of_genericName {s s' : Source} {text : List Char}
    (h : ∀ name, genericName? text = some name →
      isCollectionLike s' (String.ofList name) = isCollectionLike s (String.ofList name)) :
    shape s' text = shape s text := by
  have helement : element? s' (unmarked text) = element? s (unmarked text) := by
    unfold element?
    cases hgeneric : generic? (unmarked text) with
    | none => rfl
    | some parts =>
      have hname : genericName? text = some parts.1 := by
        rw [genericName?, hgeneric]
        rfl
      dsimp only
      rw [isCollection, isCollection, h parts.1 hname]
  cases hmark : TypeName.dropArrayMark? (Text.trim text) with
  | none =>
    rw [unmarked, hmark, Option.getD_none] at helement
    rw [shape_unmarked s' hmark, shape_unmarked s hmark, helement]
  | some inner =>
    rw [unmarked, hmark, Option.getD_some] at helement
    rw [shape_marked s' hmark, shape_marked s hmark, helement]

theorem shape_congr {s s' : Source}
    (h : ∀ name, isCollectionLike s' name = isCollectionLike s name) : shape s' = shape s := by
  funext text
  exact shape_congr_of_genericName fun name _ => h _

theorem element?_render (s : Source) {t : TypeText} (h : t.isArray = false) :
    element? s t.render =
      (t.collectionArgument? s).map fun a => TypeName.dottedChars a.render := by
  match t with
  | .name n =>
    rw [TypeText.render, element?, TypeText.generic?_name]
    rfl
  | .generic raw (.one a) =>
    rw [element?, TypeText.generic?_render]
    simp only [TypeText.isSingleArgument_one, Bool.true_and, TypeText.collectionArgument?]
    split
    · rw [TypeArguments.render, TypeText.trim_render_self]
      rfl
    · rfl
  | .generic raw (.more a gap rest) =>
    rw [element?, TypeText.generic?_render]
    simp [TypeText.isSingleArgument_more, TypeText.collectionArgument?]

/-- A type, and an array of it, is taken apart along its structure. -/
theorem shape_render (s : Source) {t : TypeText} (hArray : t.isArray = false)
    (hElement : ∀ a, t.collectionArgument? s = some a → a.isArray = false) (marked : Bool)
    {before after : List Char} (hbefore : ∀ c ∈ before, Text.isBlank c = true)
    (hafter : ∀ c ∈ after, Text.isBlank c = true) :
    shape s (before ++ (if marked then .array t else t : TypeText).render ++ after) =
      match t.collectionArgument? s with
      | some a => ⟨a.elementName, .vector, marked⟩
      | none => ⟨t.raw, if marked then .unboundedArray else .scalar, false⟩ := by
  have htrim := TypeText.trim_render hbefore hafter (if marked then .array t else t)
  cases marked with
  | true =>
    have hmark : TypeName.dropArrayMark? (Text.trim (before ++
        (if true then .array t else t : TypeText).render ++ after)) = some t.render := by
      rw [htrim]
      exact TypeText.dropArrayMark?_append _
    rw [shape_marked s hmark, element?_render s hArray,
      TypeText.beforeArguments_render hArray]
    cases ha : t.collectionArgument? s with
    | none => rfl
    | some a => simp [TypeText.beforeArguments_dottedChars (hElement a ha)]
  | false =>
    have hmark : TypeName.dropArrayMark? t.render = none := TypeText.dropArrayMark?_render hArray
    rw [shape_unmarked s (by rw [htrim]; exact hmark), htrim]
    simp only [Bool.false_eq_true, if_false]
    rw [element?_render s hArray, TypeText.beforeArguments_render hArray]
    cases ha : t.collectionArgument? s with
    | none => rfl
    | some a => simp [TypeText.beforeArguments_dottedChars (hElement a ha)]

end TypeMapping

/-! ## Return types -/

namespace Reader

theorem yields_mapType_conflict (r : Reader) (owner member : String) {returnType : String}
    {element : List Char} {cardinality : Cardinality}
    (h : TypeMapping.shape r.source returnType.toList = ⟨element, cardinality, true⟩) :
    Yields (r.mapType owner member returnType) ⟨none, cardinality, String.ofList element⟩
      [⟨.arrayOfCollection, .error, arrayOfCollections owner member returnType, []⟩] := by
  unfold mapType
  rw [h]
  exact (yields_error _ _).then_pure _

/-- The mapping of any other type, if its element has no array mark. -/
theorem yields_mapType (r : Reader) (owner member : String) {returnType : String}
    {element : List Char} {cardinality : Cardinality}
    (h : TypeMapping.shape r.source returnType.toList = ⟨element, cardinality, false⟩)
    (hmark : TypeName.dropArrayMark? element = none) :
    Yields (r.mapType owner member returnType)
      ⟨(r.verdict (String.ofList element)).valueType, cardinality, String.ofList element⟩
      (r.verdict (String.ofList element)).problems := by
  unfold mapType
  rw [h]
  exact (r.yields_elementType (by simpa using hmark)).map _

/-- The mapping of a type `t`, and of the array `t[]` if `marked`, with blanks around it, where `t` is
neither an array nor a collection of arrays. A collection with one type argument is a vector of it;
an array of such collections is an error, and the only one that is reported. Any other type stands
for itself, as one value or as an array. The value type is that of the element. -/
theorem mapType_render (r : Reader) (owner member : String) {t : TypeText}
    (hArray : t.isArray = false)
    (hElement : ∀ a, t.collectionArgument? r.source = some a → a.isArray = false) (marked : Bool)
    {before after : List Char} (hbefore : ∀ c ∈ before, Text.isBlank c = true)
    (hafter : ∀ c ∈ after, Text.isBlank c = true) :
    let text := String.ofList
      (before ++ (if marked then .array t else t : TypeText).render ++ after)
    match t.collectionArgument? r.source with
    | some a =>
      let element := String.ofList a.elementName
      if marked then
        Yields (r.mapType owner member text) ⟨none, .vector, element⟩
          [⟨.arrayOfCollection, .error, arrayOfCollections owner member text, []⟩]
      else
        Yields (r.mapType owner member text) ⟨(r.verdict element).valueType, .vector, element⟩
          (r.verdict element).problems
    | none =>
      let element := String.ofList t.raw
      Yields (r.mapType owner member text)
        ⟨(r.verdict element).valueType, if marked then .unboundedArray else .scalar, element⟩
        (r.verdict element).problems := by
  intro text
  have hshape := TypeMapping.shape_render r.source hArray hElement marked hbefore hafter
  rw [← String.toList_ofList
    (l := before ++ (if marked then .array t else t : TypeText).render ++ after)] at hshape
  cases ha : t.collectionArgument? r.source with
  | none =>
    rw [ha] at hshape
    exact r.yields_mapType owner member hshape (TypeText.dropArrayMark?_raw hArray)
  | some a =>
    rw [ha] at hshape
    cases marked with
    | true => exact r.yields_mapType_conflict owner member hshape
    | false =>
      exact r.yields_mapType owner member hshape
        (TypeText.dropArrayMark?_elementName (hElement a ha))

/-- The type `java.util.List<com.acme.Pair<int, long>>`. -/
def listOfPairs : TypeText :=
  let list : PlainName := ⟨"java.util.List".toList, by decide, List.all_eq_true.1 rfl⟩
  let pair : PlainName := ⟨"com.acme.Pair".toList, by decide, List.all_eq_true.1 rfl⟩
  let int : PlainName := ⟨"int".toList, by decide, List.all_eq_true.1 rfl⟩
  let long : PlainName := ⟨"long".toList, by decide, List.all_eq_true.1 rfl⟩
  .generic list (.one (.generic pair (.more (.name int) 1 (.one (.name long)))))

/-- An array of lists of pairs, with blanks around it. The comma inside of the pair counts for the
pair alone. -/
theorem mapType_render_listOfPairs :
    let r : Reader := { source := Source.empty }
    let text := String.ofList ([' '] ++ (TypeText.array listOfPairs).render ++ ['\t'])
    text = " java.util.List<com.acme.Pair<int, long>>[]\t" ∧ listOfPairs.isArray = false ∧
      (∀ a, listOfPairs.collectionArgument? r.source = some a → a.isArray = false) ∧
      (∀ c ∈ [' ', '\t'], Text.isBlank c = true) ∧
      Yields (r.mapType "com.acme.Config" "pairs" text) ⟨none, .vector, "com.acme.Pair"⟩
        [⟨.arrayOfCollection, .error, arrayOfCollections "com.acme.Config" "pairs" text, []⟩] := by
  intro r text
  have hElement : ∀ a, listOfPairs.collectionArgument? r.source = some a → a.isArray = false := by
    intro a ha
    cases ha
    rfl
  have hbefore : ∀ c ∈ [' '], Text.isBlank c = true := List.all_eq_true.1 rfl
  have hafter : ∀ c ∈ ['\t'], Text.isBlank c = true := List.all_eq_true.1 rfl
  exact ⟨by decide, rfl, hElement, List.all_eq_true.1 rfl,
    r.mapType_render "com.acme.Config" "pairs" rfl hElement true hbefore hafter⟩

end Reader

end Metatype
