import Mathlib.Data.List.TakeWhile
import Metatype.TypeMapping

/-!
# Type texts and their structure

The texts of types are the renderings of trees: names, names with type arguments, and arrays. A name
has no blank and none of `< > , [ ]`, and a comma between type arguments may be followed by spaces.
The functions that take a type text apart look at single characters. Here they are shown to find the
structure of the tree.

* `TypeText.isSingleArgument_append`: the count of open brackets passes over a rendered type.
* `TypeText.generic?_render`: the name and the type arguments are found.
* `TypeText.trim_render`: blanks around a rendered type are taken off, and nothing else.
-/

namespace Metatype

/-! ## Trees -/

/-- A character of a name: no blank and none of `< > , [ ]`. -/
def TypeText.isPlain (c : Char) : Bool :=
  !Text.isBlank c && !(c = '<' || c = '>' || c = ',' || c = '[' || c = ']')

/-- A name as it stands in type texts. -/
structure PlainName where
  chars : List Char
  ne_nil : chars ≠ []
  plain : ∀ c ∈ chars, TypeText.isPlain c = true

mutual

/-- A type as written. -/
inductive TypeText
  | name (n : PlainName)
  | generic (raw : PlainName) (arguments : TypeArguments)
  | array (t : TypeText)

/-- One type argument or more; `gap` is the number of spaces after a comma. -/
inductive TypeArguments
  | one (t : TypeText)
  | more (t : TypeText) (gap : Nat) (rest : TypeArguments)

end

mutual

def TypeText.render : TypeText → List Char
  | .name n => n.chars
  | .generic raw arguments => raw.chars ++ '<' :: (arguments.render ++ ['>'])
  | .array t => t.render ++ ['[', ']']

def TypeArguments.render : TypeArguments → List Char
  | .one t => t.render
  | .more t gap rest => t.render ++ ',' :: (List.replicate gap ' ' ++ rest.render)

end

namespace TypeText

def isArray : TypeText → Bool
  | .array _ => true
  | _ => false

/-- The name of a type without type arguments and array marks. -/
def raw : TypeText → List Char
  | .name n => n.chars
  | .generic raw _ => raw.chars
  | .array t => t.raw

/-- The name that a type has as an element: a plain name may be an object descriptor. -/
def elementName : TypeText → List Char
  | .name n => TypeName.dottedChars n.chars
  | t => t.raw

/-- The only type argument of a collection type. -/
def collectionArgument? (s : Source) : TypeText → Option TypeText
  | .generic raw (.one a) =>
    if TypeMapping.isCollection s (String.ofList raw.chars) then some a else none
  | _ => none

/-! ## Plain characters -/

theorem isPlain_iff {c : Char} :
    isPlain c = true ↔
      Text.isBlank c = false ∧ c ≠ '<' ∧ c ≠ '>' ∧ c ≠ ',' ∧ c ≠ '[' ∧ c ≠ ']' := by
  simp [isPlain, and_assoc]

theorem isBlank_of_plain (n : PlainName) : ∀ c ∈ n.chars, Text.isBlank c = false :=
  fun c hc => (isPlain_iff.1 (n.plain c hc)).1

theorem ne_open_of_plain (n : PlainName) : ∀ c ∈ n.chars, c ≠ '<' :=
  fun c hc => (isPlain_iff.1 (n.plain c hc)).2.1

theorem ne_close_of_plain (n : PlainName) : ∀ c ∈ n.chars, c ≠ ']' :=
  fun c hc => (isPlain_iff.1 (n.plain c hc)).2.2.2.2.2

/-- The first character and the last one of a name. -/
theorem exists_ends (n : PlainName) :
    (∃ c rest, n.chars = c :: rest ∧ Text.isBlank c = false) ∧
      ∃ front c, n.chars = front ++ [c] ∧ Text.isBlank c = false ∧ c ≠ ']' := by
  constructor
  · obtain ⟨c, rest, h⟩ := List.exists_cons_of_ne_nil n.ne_nil
    exact ⟨c, rest, h, isBlank_of_plain n c (by simp [h])⟩
  · have h := List.dropLast_concat_getLast n.ne_nil
    have hmem := List.getLast_mem n.ne_nil
    exact ⟨_, _, h.symm, isBlank_of_plain n _ hmem, ne_close_of_plain n _ hmem⟩

/-! ## Single arguments -/

open TypeMapping (isSingleArgument)

/-- Plain characters, spaces and array marks are passed over. -/
theorem isSingleArgument_pass {s : List Char} (h : ∀ c ∈ s, c ≠ '<' ∧ c ≠ '>' ∧ c ≠ ',')
    (depth : Nat) (rest : List Char) :
    isSingleArgument depth (s ++ rest) = isSingleArgument depth rest := by
  induction s with
  | nil => rfl
  | cons c s ih =>
    obtain ⟨h₁, h₂, h₃⟩ := h c List.mem_cons_self
    rw [List.cons_append, isSingleArgument, if_neg h₁, if_neg h₂, if_neg (fun hc => h₃ hc.1)]
    exact ih fun c' hc' => h c' (List.mem_cons_of_mem _ hc')

theorem isSingleArgument_name (n : PlainName) (depth : Nat) (rest : List Char) :
    isSingleArgument depth (n.chars ++ rest) = isSingleArgument depth rest := by
  refine isSingleArgument_pass (fun c hc => ?_) depth rest
  obtain ⟨-, h₁, h₂, h₃, -⟩ := isPlain_iff.1 (n.plain c hc)
  exact ⟨h₁, h₂, h₃⟩

mutual

/-- A rendered type is passed over whatever number of brackets is open: those of its own are closed
again, and its commas are inside of them. -/
theorem isSingleArgument_append (t : TypeText) (depth : Nat) (rest : List Char) :
    isSingleArgument depth (t.render ++ rest) = isSingleArgument depth rest := by
  match t with
  | .name n =>
    rw [render]
    exact isSingleArgument_name n depth rest
  | .generic raw arguments =>
    rw [render, List.append_assoc, isSingleArgument_name raw]
    simp only [List.cons_append, List.append_assoc, List.nil_append]
    rw [isSingleArgument, if_pos rfl, isSingleArgument_arguments arguments, isSingleArgument,
      if_neg (by decide), if_pos rfl, Nat.add_sub_cancel]
  | .array t =>
    rw [render, List.append_assoc, isSingleArgument_append t]
    exact isSingleArgument_pass (by simp) depth rest

/-- Inside of brackets, rendered type arguments are passed over. -/
theorem isSingleArgument_arguments (arguments : TypeArguments) (depth : Nat) (rest : List Char) :
    isSingleArgument (depth + 1) (arguments.render ++ rest) =
      isSingleArgument (depth + 1) rest := by
  match arguments with
  | .one t =>
    rw [TypeArguments.render]
    exact isSingleArgument_append t (depth + 1) rest
  | .more t gap others =>
    rw [TypeArguments.render, List.append_assoc, isSingleArgument_append t]
    simp only [List.cons_append, List.append_assoc]
    rw [isSingleArgument, if_neg (by decide), if_neg (by decide),
      if_neg fun h => Nat.succ_ne_zero depth h.2,
      isSingleArgument_pass fun c hc => by simp [(List.mem_replicate.1 hc).2]]
    exact isSingleArgument_arguments others depth rest

end

/-- The text between the outer brackets is a single argument if there is one argument. -/
theorem isSingleArgument_one (t : TypeText) :
    isSingleArgument 0 (TypeArguments.one t).render = true := by
  have h := isSingleArgument_append t 0 []
  rwa [List.append_nil] at h

/-- The first comma between arguments stands outside of all brackets. -/
theorem isSingleArgument_more (t : TypeText) (gap : Nat) (rest : TypeArguments) :
    isSingleArgument 0 (TypeArguments.more t gap rest).render = false := by
  rw [TypeArguments.render, isSingleArgument_append, isSingleArgument, if_neg (by decide),
    if_neg (by decide), if_pos ⟨rfl, rfl⟩]

/-! ## Names before type arguments -/

mutual

/-- A type is written on one line. -/
theorem ne_newline_of_mem_render (t : TypeText) : ∀ c ∈ t.render, c ≠ '\n' := by
  match t with
  | .name n =>
    rw [render]
    rintro c hc rfl
    exact absurd (isBlank_of_plain n _ hc) (by decide)
  | .generic raw arguments =>
    rw [render]
    intro c hc
    rcases List.mem_append.1 hc with hc | hc
    · rintro rfl
      exact absurd (isBlank_of_plain raw _ hc) (by decide)
    · rcases List.mem_cons.1 hc with rfl | hc
      · decide
      · rcases List.mem_append.1 hc with hc | hc
        · exact ne_newline_of_mem_arguments arguments c hc
        · rw [List.mem_singleton.1 hc]
          decide
  | .array t =>
    rw [render]
    intro c hc
    rcases List.mem_append.1 hc with hc | hc
    · exact ne_newline_of_mem_render t c hc
    · rintro rfl
      simp at hc

theorem ne_newline_of_mem_arguments (arguments : TypeArguments) :
    ∀ c ∈ arguments.render, c ≠ '\n' := by
  match arguments with
  | .one t =>
    rw [TypeArguments.render]
    exact ne_newline_of_mem_render t
  | .more t gap rest =>
    rw [TypeArguments.render]
    intro c hc
    rcases List.mem_append.1 hc with hc | hc
    · exact ne_newline_of_mem_render t c hc
    · rcases List.mem_cons.1 hc with rfl | hc
      · decide
      · rcases List.mem_append.1 hc with hc | hc
        · rw [(List.mem_replicate.1 hc).2]
          decide
        · exact ne_newline_of_mem_arguments rest c hc

end

theorem takeWhile_name (n : PlainName) : n.chars.takeWhile (· ≠ '<') = n.chars :=
  List.takeWhile_eq_self_iff.2 fun c hc => by simpa using ne_open_of_plain n c hc

theorem takeWhile_name_append (n : PlainName) (rest : List Char) :
    (n.chars ++ '<' :: rest).takeWhile (· ≠ '<') = n.chars := by
  rw [List.takeWhile_append_of_pos fun c hc => by simpa using ne_open_of_plain n c hc]
  simp

theorem dropWhile_name_append (n : PlainName) (rest : List Char) :
    (n.chars ++ '<' :: rest).dropWhile (· ≠ '<') = '<' :: rest := by
  rw [List.dropWhile_append_of_pos fun c hc => by simpa using ne_open_of_plain n c hc]
  simp

theorem generic?_name (n : PlainName) : TypeMapping.generic? n.chars = none := by
  have h : n.chars.dropWhile (· ≠ '<') = [] :=
    List.dropWhile_eq_nil_iff.2 fun c hc => by simpa using ne_open_of_plain n c hc
  rw [TypeMapping.generic?, h]

theorem arguments_render_ne_nil (arguments : TypeArguments)
    (h : ∀ t : TypeText, t.render ≠ []) : arguments.render ≠ [] := by
  cases arguments with
  | one t => exact h t
  | more t gap rest => simp [TypeArguments.render]

/-! ## Ends of a rendered type -/

theorem exists_head_render (t : TypeText) :
    ∃ c rest, t.render = c :: rest ∧ Text.isBlank c = false := by
  induction t using TypeText.rec (motive_2 := fun _ => True) with
  | name n => exact (exists_ends n).1
  | generic raw arguments =>
    obtain ⟨c, rest, h, hc⟩ := (exists_ends raw).1
    exact ⟨c, _, by rw [render, h, List.cons_append], hc⟩
  | array t ih =>
    obtain ⟨c, rest, h, hc⟩ := ih
    exact ⟨c, _, by rw [render, h, List.cons_append], hc⟩
  | one => trivial
  | more => trivial

/-- A type that is no array ends in a character of a name or in a closing bracket. -/
theorem exists_last_render {t : TypeText} (h : t.isArray = false) :
    ∃ front c, t.render = front ++ [c] ∧ Text.isBlank c = false ∧ c ≠ ']' := by
  match t with
  | .name n => exact (exists_ends n).2
  | .generic raw arguments =>
    exact ⟨raw.chars ++ '<' :: arguments.render, '>', by simp [render], by decide, by decide⟩

theorem render_ne_nil (t : TypeText) : t.render ≠ [] := by
  obtain ⟨c, rest, h, -⟩ := exists_head_render t
  simp [h]

/-- The name and the type arguments of a type are found. -/
theorem generic?_render (raw : PlainName) (arguments : TypeArguments) :
    TypeMapping.generic? (generic raw arguments).render = some (raw.chars, arguments.render) := by
  have hname : raw.chars.isEmpty = false := by
    simpa using raw.ne_nil
  have hinner : arguments.render.reverse.isEmpty = false := by
    simpa using arguments_render_ne_nil arguments render_ne_nil
  have hline : '\n' ∉ arguments.render := fun h => ne_newline_of_mem_arguments arguments _ h rfl
  simp only [TypeMapping.generic?, render, dropWhile_name_append, takeWhile_name_append]
  simp [hname, hinner, hline]

theorem generic?_of_last {front : List Char} {c : Char} (h : c ≠ '>') :
    TypeMapping.generic? (front ++ [c]) = none := by
  unfold TypeMapping.generic?
  split
  · rfl
  · rename_i d rest hdrop
    split
    · rename_i inner hrest
      obtain ⟨before, hbefore⟩ := List.dropWhile_suffix (l := front ++ [c]) (· ≠ '<')
      have hends : rest = inner.reverse ++ ['>'] := by
        rw [← List.reverse_reverse rest, hrest, List.reverse_cons]
      rw [hdrop, hends, ← List.cons_append, ← List.append_assoc] at hbefore
      have hlast := List.append_inj_right' hbefore rfl
      exact absurd (List.cons.inj hlast).1.symm h
    · rfl

theorem dropArrayMark?_append (s : List Char) :
    TypeName.dropArrayMark? (s ++ ['[', ']']) = some s := by
  simp [TypeName.dropArrayMark?]

theorem dropArrayMark?_of_last {front : List Char} {c : Char} (h : c ≠ ']') :
    TypeName.dropArrayMark? (front ++ [c]) = none := by
  unfold TypeName.dropArrayMark?
  split
  · rename_i hs
    simp only [List.reverse_append, List.reverse_cons, List.reverse_nil, List.nil_append,
      List.singleton_append, List.cons.injEq] at hs
    exact absurd hs.1 h
  · rfl

theorem dropArrayMark?_render {t : TypeText} (h : t.isArray = false) :
    TypeName.dropArrayMark? t.render = none := by
  obtain ⟨front, c, hrender, -, hc⟩ := exists_last_render h
  rw [hrender]
  exact dropArrayMark?_of_last hc

/-! ## Names of elements -/

theorem beforeArguments_render {t : TypeText} (h : t.isArray = false) :
    TypeName.beforeArguments t.render = t.raw := by
  match t with
  | .name n => exact takeWhile_name n
  | .generic raw arguments => exact takeWhile_name_append raw _

theorem descriptorName?_of_last {front : List Char} {c : Char} (h : c ≠ ';') :
    TypeName.descriptorName? (front ++ [c]) = none := by
  unfold TypeName.descriptorName?
  split
  · rename_i rest hs
    split
    · rename_i name hrest
      have hends : rest = name.reverse ++ [';'] := by
        rw [← List.reverse_reverse rest, hrest, List.reverse_cons]
      rw [hends, ← List.cons_append] at hs
      have hlast := List.append_inj_right' hs rfl
      exact absurd (List.cons.inj hlast).1 h
    · rfl
  · rfl

theorem dottedChars_of_last {front : List Char} {c : Char} (h : c ≠ ';') :
    TypeName.dottedChars (front ++ [c]) = front ++ [c] := by
  rw [TypeName.dottedChars, descriptorName?_of_last h]

/-- A type with type arguments is no object descriptor. -/
theorem dottedChars_generic (raw : PlainName) (arguments : TypeArguments) :
    TypeName.dottedChars (generic raw arguments).render = (generic raw arguments).render := by
  have hrender : (generic raw arguments).render =
      (raw.chars ++ '<' :: arguments.render) ++ ['>'] := by
    simp [render]
  rw [hrender, dottedChars_of_last (by decide)]

theorem mem_dottedChars {s : List Char} {c : Char} (h : c ∈ TypeName.dottedChars s) :
    c = '.' ∨ c ∈ s := by
  unfold TypeName.dottedChars at h
  split at h
  · rename_i name hname
    obtain ⟨d, hd, rfl⟩ := List.mem_map.1 h
    split
    · exact Or.inl rfl
    · refine Or.inr ?_
      unfold TypeName.descriptorName? at hname
      split at hname
      · rename_i rest
        split at hname
        · rename_i name' hrest
          cases hname
          have hrest' : rest = name'.reverse ++ [';'] := by
            rw [← List.reverse_reverse rest, hrest, List.reverse_cons]
          rw [hrest']
          exact List.mem_cons_of_mem _ (List.mem_append_left _ hd)
        · cases hname
      · cases hname
  · exact Or.inr h

/-- The element that a type argument gives. -/
theorem beforeArguments_dottedChars {t : TypeText} (h : t.isArray = false) :
    TypeName.beforeArguments (TypeName.dottedChars t.render) = t.elementName := by
  match t with
  | .name n =>
    refine List.takeWhile_eq_self_iff.2 fun c hc => ?_
    rcases mem_dottedChars hc with rfl | hc
    · decide
    · simpa using ne_open_of_plain n c hc
  | .generic raw arguments =>
    rw [dottedChars_generic]
    exact beforeArguments_render (t := .generic raw arguments) rfl

theorem dropArrayMark?_of_not_mem {s : List Char} (h : ']' ∉ s) :
    TypeName.dropArrayMark? s = none := by
  unfold TypeName.dropArrayMark?
  split
  · rename_i rest hs
    have hmem : ']' ∈ s.reverse := by simp [hs]
    exact absurd (List.mem_reverse.1 hmem) h
  · rfl

theorem dropArrayMark?_raw {t : TypeText} (h : t.isArray = false) :
    TypeName.dropArrayMark? t.raw = none := by
  match t with
  | .name n => exact dropArrayMark?_of_not_mem fun hc => ne_close_of_plain n _ hc rfl
  | .generic raw _ => exact dropArrayMark?_of_not_mem fun hc => ne_close_of_plain raw _ hc rfl

theorem dropArrayMark?_elementName {t : TypeText} (h : t.isArray = false) :
    TypeName.dropArrayMark? t.elementName = none := by
  match t with
  | .name n =>
    refine dropArrayMark?_of_not_mem fun hc => ?_
    rcases mem_dottedChars hc with hc | hc
    · exact absurd hc (by decide)
    · exact ne_close_of_plain n _ hc rfl
  | .generic raw arguments => exact dropArrayMark?_raw (t := .generic raw arguments) rfl

/-! ## Blanks around a rendered type -/

theorem trimStart_append {blanks s : List Char} (hblanks : ∀ c ∈ blanks, Text.isBlank c = true)
    {c : Char} {rest : List Char} (hs : s = c :: rest) (hc : Text.isBlank c = false) :
    Text.trimStart (blanks ++ s) = s := by
  subst hs
  simp [Text.trimStart, List.dropWhile_append_of_pos hblanks, hc]

/-- Text that begins and ends with other characters than blanks is what is left of it. -/
theorem trim_append {before after s : List Char} (hbefore : ∀ c ∈ before, Text.isBlank c = true)
    (hafter : ∀ c ∈ after, Text.isBlank c = true)
    (hfirst : ∃ c rest, s = c :: rest ∧ Text.isBlank c = false)
    (hlast : ∃ front c, s = front ++ [c] ∧ Text.isBlank c = false) :
    Text.trim (before ++ s ++ after) = s := by
  obtain ⟨c, rest, hs, hc⟩ := hfirst
  obtain ⟨front, d, hs', hd⟩ := hlast
  have hstart : Text.trimStart (before ++ s ++ after) = s ++ after := by
    have hhead : s ++ after = c :: (rest ++ after) := by rw [hs, List.cons_append]
    rw [List.append_assoc]
    exact trimStart_append hbefore hhead hc
  have hend : Text.trimStart (after.reverse ++ s.reverse) = s.reverse := by
    have hhead : s.reverse = d :: front.reverse := by simp [hs']
    exact trimStart_append (fun x hx => hafter x (List.mem_reverse.1 hx)) hhead hd
  rw [Text.trim, hstart, List.reverse_append, hend, List.reverse_reverse]

theorem trim_render {before after : List Char} (hbefore : ∀ c ∈ before, Text.isBlank c = true)
    (hafter : ∀ c ∈ after, Text.isBlank c = true) (t : TypeText) :
    Text.trim (before ++ t.render ++ after) = t.render := by
  refine trim_append hbefore hafter (exists_head_render t) ?_
  cases hArray : t.isArray with
  | false =>
    obtain ⟨front, c, hrender, hc, -⟩ := exists_last_render hArray
    exact ⟨front, c, hrender, hc⟩
  | true =>
    match t with
    | .array t => exact ⟨t.render ++ ['['], ']', by simp [render], by decide⟩

theorem trim_render_self (t : TypeText) : Text.trim t.render = t.render := by
  have hnone : ∀ c ∈ ([] : List Char), Text.isBlank c = true := by simp
  have h := trim_render hnone hnone t
  rwa [List.nil_append, List.append_nil] at h

end TypeText

end Metatype
