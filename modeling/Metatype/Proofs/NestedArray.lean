import Metatype.Proofs.Mapping

/-!
# Arrays of arrays

Attributes hold arrays of depth one. A deeper array is a type with two array marks or more, or a
collection whose only type argument has at least one. Of such a text the mapping looks for the
inner marks at the end, after it has cut off everything from the first `<`. So the marks are found
after a name, and they are lost after type arguments.

* `TypeText.beforeArguments_arrays`: what is left of a type with array marks after it.
* `TypeMapping.shape_arrays`, `TypeMapping.shape_collection_arrays`: how deeper arrays are taken
  apart.
* `Reader.mapType_arrays`: deeper arrays of a name are rejected; with type arguments they are
  mapped as the name alone.
-/

namespace Metatype

open Reporting

/-! ## Types with array marks -/

namespace TypeText

/-- A type with array marks after it. -/
def arrays (t : TypeText) : Nat → TypeText
  | 0 => t
  | n + 1 => .array (t.arrays n)

def hasArguments : TypeText → Bool
  | .name _ => false
  | .generic _ _ => true
  | .array t => t.hasArguments

theorem render_arrays_succ (t : TypeText) (n : Nat) :
    (t.arrays (n + 1)).render = (t.arrays n).render ++ ['['] ++ [']'] := by
  simp [arrays, render]

/-- Array marks go on after the name and its type arguments. -/
theorem exists_render_arrays (t : TypeText) (n : Nat) :
    ∃ marks, (t.arrays n).render = t.render ++ marks ∧ ∀ c ∈ marks, c = '[' ∨ c = ']' := by
  induction n with
  | zero => exact ⟨[], by simp [arrays], by simp⟩
  | succ n ih =>
    obtain ⟨marks, hmarks, hall⟩ := ih
    refine ⟨marks ++ ['[', ']'], by simp [arrays, render, hmarks], ?_⟩
    intro c hc
    rcases List.mem_append.1 hc with hc | hc
    · exact hall c hc
    · simpa using hc

/-- Cut off at the first `<`, a type keeps its array marks only if it has no type arguments. -/
theorem beforeArguments_arrays {t : TypeText} (h : t.isArray = false) (n : Nat) :
    TypeName.beforeArguments (t.arrays n).render =
      if t.hasArguments then t.raw else (t.arrays n).render := by
  obtain ⟨marks, hmarks, hall⟩ := t.exists_render_arrays n
  rw [hmarks]
  match t with
  | .name m =>
    refine List.takeWhile_eq_self_iff.2 fun c hc => ?_
    have hne : c ≠ '<' := by
      rcases List.mem_append.1 hc with hc | hc
      · exact ne_open_of_plain m c hc
      · rcases hall c hc with rfl | rfl <;> decide
    simpa using hne
  | .generic raw arguments =>
    rw [render, List.append_assoc, List.cons_append]
    exact takeWhile_name_append raw _

end TypeText

/-! ## Shapes of deeper arrays -/

namespace TypeMapping

variable (s : Source) {t : TypeText} (h : t.isArray = false) (n : Nat)

theorem element?_arrays (t : TypeText) : element? s (t.arrays (n + 1)).render = none := by
  rw [element?, TypeText.render_arrays_succ, TypeText.generic?_of_last (by decide)]

include h

theorem shape_arrays :
    shape s (t.arrays (n + 2)).render =
      ⟨if t.hasArguments then t.raw else (t.arrays (n + 1)).render, .unboundedArray, false⟩ := by
  have hmark : TypeName.dropArrayMark? (Text.trim (t.arrays (n + 2)).render) =
      some (t.arrays (n + 1)).render := by
    rw [TypeText.trim_render_self]
    exact TypeText.dropArrayMark?_append _
  rw [shape_marked s hmark, element?_arrays, TypeText.beforeArguments_arrays h]

theorem shape_collection_arrays {c : PlainName}
    (hc : isCollection s (String.ofList c.chars) = true) :
    shape s (TypeText.generic c (.one (t.arrays (n + 1)))).render =
      ⟨if t.hasArguments then t.raw else (t.arrays (n + 1)).render, .vector, false⟩ := by
  have hargument : (TypeText.generic c (.one (t.arrays (n + 1)))).collectionArgument? s =
      some (t.arrays (n + 1)) := by
    rw [TypeText.collectionArgument?, if_pos hc]
  have hmark : TypeName.dropArrayMark? (TypeText.generic c (.one (t.arrays (n + 1)))).render =
      none := TypeText.dropArrayMark?_render rfl
  have hdotted : TypeName.dottedChars (t.arrays (n + 1)).render = (t.arrays (n + 1)).render := by
    rw [TypeText.render_arrays_succ, TypeText.dottedChars_of_last (by decide)]
  rw [shape_unmarked s (by rw [TypeText.trim_render_self]; exact hmark),
    TypeText.trim_render_self, element?_render s rfl, hargument]
  simp only [Option.map_some, hdotted, TypeText.beforeArguments_arrays h]

end TypeMapping

/-! ## The mapping of deeper arrays -/

namespace Reader

/-- The verdict on an array inside of an array or of a collection. The marks of the inner array are
not seen behind type arguments, and then the verdict is that on the name before them. -/
def nestedVerdict (r : Reader) (t : TypeText) (n : Nat) : Verdict :=
  if t.hasArguments then r.verdict (String.ofList t.raw)
  else
    ⟨none, [⟨.nestedArray, .error, "Can only handle array of depth one, nested type " ++
      String.ofList (t.arrays n).render, []⟩]⟩

theorem yields_mapType_nested (r : Reader) (owner member : String) {t : TypeText}
    (hArray : t.isArray = false) (n : Nat) {returnType : String} {cardinality : Cardinality}
    (h : TypeMapping.shape r.source returnType.toList =
      ⟨if t.hasArguments then t.raw else (t.arrays (n + 1)).render, cardinality, false⟩) :
    Yields (r.mapType owner member returnType)
      ⟨(r.nestedVerdict t (n + 1)).valueType, cardinality,
        String.ofList (if t.hasArguments then t.raw else (t.arrays (n + 1)).render)⟩
      (r.nestedVerdict t (n + 1)).problems := by
  unfold nestedVerdict
  cases harguments : t.hasArguments with
  | true =>
    rw [harguments] at h
    exact r.yields_mapType owner member h (TypeText.dropArrayMark?_raw hArray)
  | false =>
    rw [harguments] at h
    have hmark : TypeName.dropArrayMark? (t.arrays (n + 1)).render = some (t.arrays n).render :=
      TypeText.dropArrayMark?_append _
    have hsome : (TypeName.dropArrayMark?
        (String.ofList (t.arrays (n + 1)).render).toList).isSome = true := by
      rw [String.toList_ofList, hmark]
      rfl
    have helement := r.yields_elementType_array hsome
    unfold mapType
    rw [h]
    exact helement.map _

/-- Arrays of depth two or more, and collections of arrays. If the innermost type `t` is a name,
they are rejected, with the text of the inner array in the report. If `t` has type arguments, they
are mapped as the name of `t` alone, and rejected only where this name is. -/
theorem mapType_arrays (r : Reader) (owner member : String) {t : TypeText}
    (hArray : t.isArray = false) (n : Nat) {c : PlainName}
    (hc : TypeMapping.isCollection r.source (String.ofList c.chars) = true) :
    let verdict := r.nestedVerdict t (n + 1)
    let element := String.ofList (if t.hasArguments then t.raw else (t.arrays (n + 1)).render)
    Yields (r.mapType owner member (String.ofList (t.arrays (n + 2)).render))
        ⟨verdict.valueType, .unboundedArray, element⟩ verdict.problems ∧
      Yields (r.mapType owner member
          (String.ofList (TypeText.generic c (.one (t.arrays (n + 1)))).render))
        ⟨verdict.valueType, .vector, element⟩ verdict.problems := by
  intro verdict element
  constructor
  · refine r.yields_mapType_nested owner member hArray n ?_
    rw [String.toList_ofList]
    exact TypeMapping.shape_arrays r.source hArray n
  · refine r.yields_mapType_nested owner member hArray n ?_
    rw [String.toList_ofList]
    exact TypeMapping.shape_collection_arrays r.source hArray n hc

/-- The name with a text that is one. -/
def plainName (s : String) (h : (!s.toList.isEmpty && s.toList.all TypeText.isPlain) = true) :
    PlainName :=
  have hboth := Bool.and_eq_true_iff.1 h
  ⟨s.toList, fun hnil => by simp [hnil] at hboth, List.all_eq_true.1 hboth.2⟩

def intName : TypeText := .name (plainName "int" rfl)

def listName : PlainName := plainName "java.util.List" rfl

/-- An array of arrays and a list of arrays of numbers are rejected. -/
theorem mapType_arrays_int :
    let r : Reader := { source := Source.empty }
    let problem : Diagnostic :=
      ⟨.nestedArray, .error, "Can only handle array of depth one, nested type int[]", []⟩
    intName.isArray = false ∧
      TypeMapping.isCollection r.source (String.ofList listName.chars) = true ∧
      Yields (r.mapType "com.acme.Config" "ports" "int[][]") ⟨none, .unboundedArray, "int[]"⟩
        [problem] ∧
      Yields (r.mapType "com.acme.Config" "ports" "java.util.List<int[]>")
        ⟨none, .vector, "int[]"⟩ [problem] := by
  intro r problem
  have hlist : TypeMapping.isCollection r.source (String.ofList listName.chars) = true := rfl
  have hverdict : r.nestedVerdict intName 1 = ⟨none, [problem]⟩ := by decide
  have helement : String.ofList (if intName.hasArguments then intName.raw
      else (intName.arrays 1).render) = "int[]" := by decide
  have harray : String.ofList (intName.arrays 2).render = "int[][]" := by decide
  have hcollection : String.ofList (TypeText.generic listName (.one (intName.arrays 1))).render =
      "java.util.List<int[]>" := by decide
  have h := r.mapType_arrays "com.acme.Config" "ports" (t := intName) rfl 0 hlist
  simp only [Nat.zero_add, hverdict, helement, harray, hcollection] at h
  exact ⟨rfl, hlist, h⟩

def classOfAny : TypeText :=
  .generic (plainName "java.lang.Class" rfl) (.one (.name (plainName "?" rfl)))

/-- Not every array of arrays is rejected: one of classes with a type argument is taken for an array
of strings, and a list of arrays of them for a vector of strings. Nothing is reported. -/
theorem exists_arrays_not_rejected :
    let r : Reader := { source := Source.empty }
    let array := String.ofList (classOfAny.arrays 2).render
    let list := String.ofList (TypeText.generic listName (.one (classOfAny.arrays 1))).render
    array = "java.lang.Class<?>[][]" ∧ list = "java.util.List<java.lang.Class<?>[]>" ∧
      Yields (r.mapType "com.acme.Config" "types" array)
        ⟨some .string, .unboundedArray, "java.lang.Class"⟩ [] ∧
      Yields (r.mapType "com.acme.Config" "types" list)
        ⟨some .string, .vector, "java.lang.Class"⟩ [] := by
  intro r array list
  have hyields : ∀ {returnType : String} {mapping : TypeMapping},
      value (r.mapType "com.acme.Config" "types" returnType) = mapping →
      added (r.mapType "com.acme.Config" "types" returnType) = [] →
      Yields (r.mapType "com.acme.Config" "types" returnType) mapping [] := by
    intro returnType mapping hvalue hadded
    rw [← hvalue, ← hadded]
    exact r.yields_mapType_self _ _ _
  exact ⟨by decide, by decide, hyields (by decide) (by decide), hyields (by decide) (by decide)⟩

end Reader

end Metatype
