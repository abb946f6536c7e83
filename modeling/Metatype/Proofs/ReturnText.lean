import Metatype.Proofs.Member
import Metatype.Registry

/-!
# Return types of any text

The mapping of a return type and the look at the default of an annotation element both read the
element from the text of the return type. The mapping takes off blanks and one array mark and cuts
off type arguments; the other reading takes off all array marks and cuts off type arguments. On a
text that is mapped, and not as a collection, they differ by the blanks and by nothing else.

* `Reader.mapType_reports`: a text is mapped and nothing is reported, or there is one error.
* `TypeName.rawChars_trim_eq_iff`: the texts whose element is read alike with and without the blanks
  around it.
* `Reader.element_mapType`: the element of a mapping, in terms of the other reading.
-/

namespace Metatype

open Reporting

namespace Reader

/-! ## Mapped or reported -/

/-- The mapping of any text gives a value type and leaves the report as it is, or it gives none and
adds one error. -/
theorem mapType_reports (r : Reader) (owner member returnType : String) (before : Report) :
    let run := (r.mapType owner member returnType).run before
    (run.1.valueType.isSome = true ∧ run.2 = before) ∨
      (run.1.valueType = none ∧ ∃ d, d.severity = .error ∧ run.2 = before.push d) := by
  intro run
  obtain ⟨herror, hlength⟩ := r.explains_mapType owner member returnType
  have hrun : run = (value (r.mapType owner member returnType),
      ⟨before.items ++ added (r.mapType owner member returnType)⟩) :=
    r.yields_mapType_self owner member returnType before
  rw [hrun]
  cases hvalue : (value (r.mapType owner member returnType)).valueType with
  | some v =>
    rw [hvalue] at hlength
    have hnone : added (r.mapType owner member returnType) = [] :=
      List.eq_nil_of_length_eq_zero hlength
    rw [hnone, List.append_nil]
    exact Or.inl ⟨rfl, rfl⟩
  | none =>
    rw [hvalue] at hlength
    obtain ⟨d, hd⟩ := List.length_eq_one_iff.1 hlength
    rw [hd]
    exact Or.inr ⟨rfl, d, (herror d (by simp [hd])).1, rfl⟩

end Reader

/-! ## Array marks and type arguments -/

theorem Text.exists_blanks (s : List Char) :
    ∃ before after, (∀ c ∈ before, isBlank c = true) ∧ (∀ c ∈ after, isBlank c = true) ∧
      s = before ++ trimStart s ∧ trimStart s = trim s ++ after := by
  refine ⟨s.takeWhile isBlank, ((trimStart s).reverse.takeWhile isBlank).reverse,
    fun c hc => List.mem_takeWhile_imp hc,
    fun c hc => List.mem_takeWhile_imp (List.mem_reverse.1 hc),
    List.takeWhile_append_dropWhile.symm, ?_⟩
  rw [trim, ← List.reverse_append, trimStart, trimStart, List.takeWhile_append_dropWhile,
    List.reverse_reverse]

namespace TypeName

/-- A type text without array marks at its end and without type arguments. -/
def rawChars (s : List Char) : List Char := beforeArguments (dropArrayMarks s)

theorem raw_eq (typeText : String) : raw typeText = String.ofList (rawChars typeText.toList) := rfl

theorem dropArrayMarks_append_mark (s : List Char) :
    dropArrayMarks (s ++ ['[', ']']) = dropArrayMarks s := by
  simp [dropArrayMarks, dropReversedMarks]

theorem eq_append_of_dropArrayMark? {s inner : List Char} (h : dropArrayMark? s = some inner) :
    s = inner ++ ['[', ']'] := by
  unfold dropArrayMark? at h
  split at h
  · rename_i rest hs
    cases h
    rw [← List.reverse_reverse s, hs]
    simp
  · cases h

theorem dropArrayMarks_of_dropArrayMark? {s : List Char} (h : dropArrayMark? s = none) :
    dropArrayMarks s = s := by
  unfold dropArrayMark? at h
  unfold dropArrayMarks dropReversedMarks
  split at h
  · cases h
  · exact List.reverse_reverse s

theorem dropReversedMarks_append {blanks : List Char} (h : ∀ c ∈ blanks, Text.isBlank c = true)
    (s : List Char) : dropReversedMarks (s ++ blanks) = dropReversedMarks s ++ blanks := by
  induction s using dropReversedMarks.induct with
  | case1 rest ih => simpa [dropReversedMarks] using ih
  | case2 s hs =>
    -- The blanks do not complete a mark that `s` begins with.
    have hblanks : ∀ rest, s ++ blanks = ']' :: '[' :: rest → False := by
      intro rest heq
      match s with
      | [] =>
        rw [List.nil_append] at heq
        exact absurd (h ']' (by simp [heq])) (by decide)
      | [c] =>
        have hrest : blanks = '[' :: rest := (List.cons.inj heq).2
        exact absurd (h '[' (by simp [hrest])) (by decide)
      | c :: d :: s =>
        obtain ⟨rfl, hrest⟩ := List.cons.inj heq
        obtain ⟨rfl, -⟩ := List.cons.inj hrest
        exact hs s rfl
    rw [dropReversedMarks.eq_2 _ hs, dropReversedMarks.eq_2 _ hblanks]

/-- Blanks before a text hide no array mark at its end. -/
theorem dropArrayMarks_append {blanks : List Char} (h : ∀ c ∈ blanks, Text.isBlank c = true)
    (s : List Char) : dropArrayMarks (blanks ++ s) = blanks ++ dropArrayMarks s := by
  unfold dropArrayMarks
  rw [List.reverse_append, dropReversedMarks_append (by simpa using h), List.reverse_append,
    List.reverse_reverse]

theorem exists_append_dropReversedMarks (s : List Char) :
    ∃ marks, s = marks ++ dropReversedMarks s ∧ '<' ∉ marks := by
  induction s using dropReversedMarks.induct with
  | case1 rest ih =>
    obtain ⟨marks, hmarks, hnot⟩ := ih
    refine ⟨']' :: '[' :: marks, ?_, by simp [hnot]⟩
    rw [dropReversedMarks, List.cons_append, List.cons_append, ← hmarks]
  | case2 s hs => exact ⟨[], by rw [dropReversedMarks.eq_2 _ hs, List.nil_append], by simp⟩

theorem exists_append_dropArrayMarks (s : List Char) :
    ∃ marks, s = dropArrayMarks s ++ marks ∧ '<' ∉ marks := by
  obtain ⟨marks, hmarks, hnot⟩ := exists_append_dropReversedMarks s.reverse
  refine ⟨marks.reverse, ?_, by simpa using hnot⟩
  rw [dropArrayMarks, ← List.reverse_append, ← hmarks, List.reverse_reverse]

theorem beforeArguments_of_not_mem {s : List Char} (h : '<' ∉ s) : beforeArguments s = s :=
  List.takeWhile_eq_self_iff.2 fun c hc => by
    simpa using fun heq : c = '<' => h (heq ▸ hc)

theorem beforeArguments_append_of_not_mem {front : List Char} (h : '<' ∉ front)
    (rest : List Char) : beforeArguments (front ++ rest) = front ++ beforeArguments rest :=
  List.takeWhile_append_of_pos fun c hc => by
    simpa using fun heq : c = '<' => h (heq ▸ hc)

/-- What comes after type arguments makes no difference. -/
theorem beforeArguments_append_of_mem {s : List Char} (h : '<' ∈ s) (rest : List Char) :
    beforeArguments (s ++ rest) = beforeArguments s := by
  obtain ⟨front, back, rfl, hfront⟩ := List.eq_append_cons_of_mem h
  rw [List.append_assoc, beforeArguments_append_of_not_mem hfront,
    beforeArguments_append_of_not_mem hfront]
  simp [beforeArguments]

/-! ## Blanks around a text -/

theorem rawChars_append_mark (s : List Char) : rawChars (s ++ ['[', ']']) = rawChars s := by
  rw [rawChars, dropArrayMarks_append_mark, rawChars]

/-- With type arguments there is no array mark to take off. -/
theorem rawChars_of_mem {s : List Char} (h : '<' ∈ s) : rawChars s = beforeArguments s := by
  obtain ⟨marks, hs, hmarks⟩ := exists_append_dropArrayMarks s
  have hmem : '<' ∈ dropArrayMarks s := (List.mem_append.1 (hs ▸ h)).resolve_right hmarks
  calc
    rawChars s = beforeArguments (dropArrayMarks s ++ marks) :=
      (beforeArguments_append_of_mem hmem marks).symm
    _ = beforeArguments s := by rw [← hs]

theorem rawChars_of_not_mem {s : List Char} (h : '<' ∉ s) : rawChars s = dropArrayMarks s := by
  obtain ⟨marks, hs, -⟩ := exists_append_dropArrayMarks s
  refine beforeArguments_of_not_mem fun hmem => h ?_
  rw [hs]
  exact List.mem_append_left _ hmem

/-- Where the text before type arguments has no array mark, one is as good as none. -/
theorem rawChars_of_dropArrayMark? {s : List Char}
    (h : dropArrayMark? (beforeArguments s) = none) : rawChars s = beforeArguments s := by
  by_cases hmem : '<' ∈ s
  · exact rawChars_of_mem hmem
  · rw [beforeArguments_of_not_mem hmem] at h ⊢
    rw [rawChars_of_not_mem hmem, dropArrayMarks_of_dropArrayMark? h]

section Blanks

variable {before after s : List Char} (hbefore : ∀ c ∈ before, Text.isBlank c = true)
  (hafter : ∀ c ∈ after, Text.isBlank c = true)

include hafter

/-- Blanks after a text hide the array marks at its end. -/
theorem dropArrayMarks_of_blank (h : after ≠ []) : dropArrayMarks (s ++ after) = s ++ after := by
  have hlast : after.getLast h ≠ ']' := by
    intro heq
    exact absurd (hafter _ (List.getLast_mem h)) (by rw [heq]; decide)
  rw [← List.dropLast_concat_getLast h, ← List.append_assoc]
  exact dropArrayMarks_of_dropArrayMark? (TypeText.dropArrayMark?_of_last hlast)

include hbefore

theorem rawChars_blanks (h : '<' ∈ s ∨ after = []) :
    rawChars (before ++ s ++ after) = before ++ rawChars s := by
  have hnot : '<' ∉ before := fun hmem => absurd (hbefore '<' hmem) (by decide)
  rcases h with hmem | rfl
  · have hall : '<' ∈ before ++ s ++ after := by simp [hmem]
    rw [rawChars_of_mem hall, List.append_assoc, beforeArguments_append_of_not_mem hnot,
      beforeArguments_append_of_mem hmem, rawChars_of_mem hmem]
  · rw [List.append_nil, rawChars, dropArrayMarks_append hbefore,
      beforeArguments_append_of_not_mem hnot, rawChars]

/-- Blanks before a text stay, and so do blanks after a text without type arguments. -/
theorem rawChars_blanks_eq_iff :
    rawChars s = rawChars (before ++ s ++ after) ↔ before = [] ∧ ('<' ∈ s ∨ after = []) := by
  constructor
  · intro h
    have hcase : '<' ∈ s ∨ after = [] := by
      by_contra hnot
      obtain ⟨hmem, hne⟩ := not_or.1 hnot
      have hall : '<' ∉ before ++ s ++ after := by
        simp only [List.mem_append, not_or]
        exact ⟨⟨fun hb => absurd (hbefore '<' hb) (by decide), hmem⟩,
          fun ha => absurd (hafter '<' ha) (by decide)⟩
      rw [rawChars_of_not_mem hmem, rawChars_of_not_mem hall,
        dropArrayMarks_of_blank hafter hne] at h
      obtain ⟨marks, hs, -⟩ := exists_append_dropArrayMarks s
      have hshort := congrArg List.length hs
      have hlong := congrArg List.length h
      have hpos := List.length_pos_iff.2 hne
      simp only [List.length_append] at hshort hlong
      omega
    rw [rawChars_blanks hbefore hafter hcase] at h
    exact ⟨by simpa using h, hcase⟩
  · rintro ⟨rfl, hcase⟩
    rw [rawChars_blanks hbefore hafter hcase, List.nil_append]

end Blanks

/-- The element is read alike without the blanks around a text exactly if there are none before it,
and none after it unless it has type arguments. -/
theorem rawChars_trim_eq_iff (s : List Char) :
    rawChars (Text.trim s) = rawChars s ↔
      Text.trimStart s = s ∧ ('<' ∈ s ∨ Text.trim s = s) := by
  obtain ⟨before, after, hbefore, hafter, hstart, hend⟩ := Text.exists_blanks s
  have hs : s = before ++ Text.trim s ++ after := by rw [List.append_assoc, ← hend, ← hstart]
  have hfirst : Text.trimStart s = s ↔ before = [] := by
    constructor
    · intro h
      rw [h] at hstart
      simpa using hstart
    · rintro rfl
      exact hstart.symm
  have hmem : '<' ∈ Text.trim s ↔ '<' ∈ s := by
    constructor
    · intro h
      rw [hs]
      simp [h]
    · intro h
      have hparts : '<' ∈ before ++ Text.trim s ++ after := hs ▸ h
      simp only [List.mem_append] at hparts
      rcases hparts with (h | h) | h
      · exact absurd (hbefore '<' h) (by decide)
      · exact h
      · exact absurd (hafter '<' h) (by decide)
  have hblanks := rawChars_blanks_eq_iff (s := Text.trim s) hbefore hafter
  rw [← hs] at hblanks
  rw [hblanks, hfirst, hmem]
  refine and_congr_right fun hnil => or_congr_right ?_
  rw [hfirst.2 hnil] at hend
  constructor
  · rintro rfl
    simpa using hend.symm
  · intro h
    rw [h] at hend
    simpa using hend

end TypeName

/-! ## The element of a mapping -/

theorem TypeMapping.element_shape {s : Source} {text : List Char}
    (hvector : (shape s text).cardinality ≠ .vector)
    (hmark : TypeName.dropArrayMark? (shape s text).element = none) :
    (shape s text).element = TypeName.rawChars (Text.trim text) := by
  cases hdrop : TypeName.dropArrayMark? (Text.trim text) with
  | none =>
    rw [shape_unmarked s hdrop] at hvector hmark ⊢
    cases helement : element? s (Text.trim text) with
    | none =>
      rw [helement] at hmark
      exact (TypeName.rawChars_of_dropArrayMark? hmark).symm
    | some element =>
      rw [helement] at hvector
      exact absurd rfl hvector
  | some inner =>
    rw [shape_marked s hdrop] at hvector hmark ⊢
    cases helement : element? s inner with
    | none =>
      rw [helement] at hmark
      rw [TypeName.eq_append_of_dropArrayMark? hdrop, TypeName.rawChars_append_mark]
      exact (TypeName.rawChars_of_dropArrayMark? hmark).symm
    | some element =>
      rw [helement] at hvector
      exact absurd rfl hvector

namespace Reader

/-- An element with an array mark has no value type. -/
theorem dropArrayMark?_of_returnVerdict {r : Reader} {owner member returnType : String}
    (h : (r.returnVerdict owner member returnType).valueType.isSome = true) :
    TypeName.dropArrayMark? (TypeMapping.shape r.source returnType.toList).element = none := by
  unfold returnVerdict elementVerdict at h
  dsimp only at h
  split at h
  · cases h
  · split at h
    · cases h
    · rename_i hmark
      simpa using hmark

/-- Let the return type of a member be mapped to a value type, and not as a collection. The element
of the mapping is what the text without the blanks around it gives as its element. It is the element
whose default is looked at exactly if no blanks come before the text, and none after it unless it
has type arguments. -/
theorem element_mapType (r : Reader) (owner member : String) (m : Method)
    {before after : Report} {mapping : TypeMapping}
    (hrun : (r.mapType owner member m.returnType).run before = (mapping, after))
    (hvalue : mapping.valueType.isSome = true) (hvector : mapping.cardinality ≠ .vector) :
    let text := m.returnType.toList
    mapping.element = TypeName.raw (String.ofList (Text.trim text)) ∧
      (mapping.element = m.elementType ↔
        Text.trimStart text = text ∧ ('<' ∈ text ∨ Text.trim text = text)) := by
  intro text
  rw [r.yields_returnVerdict owner member m.returnType before] at hrun
  cases hrun
  have helement := TypeMapping.element_shape hvector (dropArrayMark?_of_returnVerdict hvalue)
  have hraw : m.elementType = String.ofList (TypeName.rawChars text) := rfl
  constructor
  · rw [TypeName.raw_eq, String.toList_ofList]
    exact congrArg String.ofList helement
  · rw [hraw, String.ofList_inj, helement]
    exact TypeName.rawChars_trim_eq_iff text

def tls : DeclaredType := { name := "com.acme.Tls", kind := .annotationType }

/-- A reader that maps interfaces to strings. -/
def tlsReader : Reader :=
  { source := Registry.source { types := [tls], nodup := by decide }
    options := { nested := true } }

/-- The blank after type arguments makes no difference, and neither does the second array mark. -/
theorem element_mapType_classes :
    let m : Method := { name := "types", returnType := "java.lang.Class<?>[][] " }
    ∃ mapping after, (tlsReader.mapType "com.acme.Server" m.name m.returnType).run {} =
        (mapping, after) ∧
      mapping.valueType.isSome = true ∧ mapping.cardinality ≠ .vector ∧
      mapping.element = "java.lang.Class" ∧ mapping.element = m.elementType := by
  intro m
  have hvalue : tlsReader.mapped "com.acme.Server" m =
      ⟨some .string, .unboundedArray, "java.lang.Class"⟩ := by decide
  have hrun := tlsReader.yields_mapType_self "com.acme.Server" m.name m.returnType {}
  rw [← mapped, hvalue] at hrun
  have hvector : Cardinality.unboundedArray ≠ .vector := by decide
  have h := (tlsReader.element_mapType "com.acme.Server" m.name m hrun rfl hvector).2.2
    ⟨by decide, Or.inl (by decide)⟩
  exact ⟨_, _, hrun, rfl, hvector, rfl, h⟩

/-- Not every element is read alike. After a blank an array mark stays, and before a blank the name
of an annotation is not known, so that the default of a member is kept that is mapped as this
annotation. -/
theorem exists_element_off :
    let ports : Method := { name := "ports", returnType := "int[] " }
    let security : Method :=
      { name := "security", returnType := " com.acme.Tls", default := some (.string "on") }
    tlsReader.mapped "com.acme.Server" ports = ⟨some .integer, .unboundedArray, "int"⟩ ∧
      ports.elementType = "int[] " ∧
      tlsReader.mapped "com.acme.Server" security = ⟨some .string, .scalar, "com.acme.Tls"⟩ ∧
      security.elementType = " com.acme.Tls" ∧
      tlsReader.isNestedElement "com.acme.Tls" = true ∧
      (tlsReader.memberAttribute .annotationType "com.acme.Server" none none security).defaults =
        some ["on"] := by
  decide

end Reader

end Metatype
