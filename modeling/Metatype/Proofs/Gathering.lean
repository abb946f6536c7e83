import Metatype.Proofs.Member

/-!
# What a type gathers

The declarations of a type leave a collector in a state that can be told from the type alone. The
members stand among fields, static methods and the markers on all of these, but what is gathered for
one member comes from this member.

* `Collector.run_markers_member`, `Collector.yields_markers_between`,
  `Collector.yields_markers_head`: the markers on a pending attribute, on any other member, and on
  the type.
* `Collector.yields_fields`, `Collector.yields_methods`: the members of a type.
* `Collector.yields_declarations`: all declarations of a type.
-/

namespace Metatype

open Reporting

/-! ## Parts of a type -/

/-- A pending attribute after a marker on it. -/
def Pending.mark (recognizer : Recognizer) (p : Pending) : Marker → Pending
  | .objectClass _ => p
  | .attribute m => { p with marker := some m }
  | .foreign m =>
    match recognizer m with
    | some e => { p with extensions := p.extensions ++ [e] }
    | none => p

/-- A pending attribute after markers on it: the last attribute marker stays, extension attributes
are added. -/
def Pending.marked (recognizer : Recognizer) (markers : List Marker) (p : Pending) : Pending :=
  { p with
    marker := (markers.filterMap Marker.attribute?).getLast?.or p.marker
    extensions := p.extensions ++ markers.filterMap (Marker.extension? recognizer) }

theorem Pending.marked_nil (recognizer : Recognizer) (p : Pending) :
    p.marked recognizer [] = p := by
  simp [marked]

theorem Pending.marked_cons (recognizer : Recognizer) (m : Marker) (rest : List Marker)
    (p : Pending) :
    p.marked recognizer (m :: rest) = (p.mark recognizer m).marked recognizer rest := by
  match m with
  | .objectClass _ => simp [marked, mark, List.filterMap_cons, Marker.attribute?, Marker.extension?]
  | .attribute m =>
    simp [marked, mark, List.filterMap_cons, Marker.attribute?, Marker.extension?,
      List.getLast?_cons]
  | .foreign m =>
    cases h : recognizer m with
    | some e => simp [marked, mark, List.filterMap_cons, Marker.attribute?, Marker.extension?, h]
    | none => simp [marked, mark, List.filterMap_cons, Marker.attribute?, Marker.extension?, h]

def Marker.objectClass? : Marker → Option ObjectClassMarker
  | .objectClass m => some m
  | _ => none

theorem Marker.eq_of_objectClass? {m : Marker} {o : ObjectClassMarker}
    (h : m.objectClass? = some o) : m = .objectClass o := by
  rcases m with m | m | m
  · simp only [objectClass?, Option.some.injEq] at h
    rw [h]
  · simp [objectClass?] at h
  · simp [objectClass?] at h

/-- The last static field with the name of the prefix; only that of the root counts. -/
def Field.lastPrefix? (isRoot : Bool) (fields : List Field) : Option Field :=
  (fields.filter fun f => f.isStatic && f.name = prefixFieldName && isRoot).getLast?

theorem Field.lastPrefix?_cons (isRoot : Bool) (f : Field) (rest : List Field) (o : Option Field) :
    (lastPrefix? isRoot (f :: rest)).or o =
      (lastPrefix? isRoot rest).or
        (if f.isStatic && f.name = prefixFieldName && isRoot then some f else o) := by
  unfold lastPrefix?
  split
  · rename_i h
    rw [List.filter_cons, if_pos h, List.getLast?_cons, Option.some_or, Option.or_some]
  · rename_i h
    rw [List.filter_cons, if_neg h]

theorem Field.lastPrefix?_false (fields : List Field) : lastPrefix? false fields = none := by
  simp [lastPrefix?]

namespace DeclaredType

/-- Whether a method of that name is an annotation element other than `value`. -/
def isOther (t : DeclaredType) (m : Method) : Bool := t.isAnnotationType && m.name ≠ "value"

/-- By how much a method changes the number of elements other than `value` that have no default. A
default counts on static methods too. -/
def lackingBy (t : DeclaredType) (m : Method) : Int :=
  (if t.isOther m && !m.isStatic then 1 else 0) - if t.isOther m && m.default.isSome then 1 else 0

/-- The number of elements other than `value` less the number of their defaults. -/
def lacking (t : DeclaredType) (methods : List Method) : Int :=
  methods.countP (fun m => t.isOther m && !m.isStatic) -
    methods.countP (fun m => t.isOther m && m.default.isSome)

theorem lacking_nil (t : DeclaredType) : t.lacking [] = 0 := rfl

theorem lacking_cons (t : DeclaredType) (m : Method) (methods : List Method) :
    t.lacking (m :: methods) = t.lackingBy m + t.lacking methods := by
  rw [lacking, lacking, lackingBy, List.countP_cons, List.countP_cons]
  split <;> split <;> omega

/-- Whether there is an annotation element `value`. -/
def hasValue (t : DeclaredType) : Bool :=
  t.isAnnotationType && t.members.any fun m => m.name = "value"

/-- The shorthand key of an annotation with an element `value`, if all other elements have
defaults. -/
def shorthand? (t : DeclaredType) : Option String :=
  if t.hasValue && t.lacking t.methods = 0 then some (shorthandKey t.simpleName)
  else none

/-- The markers on members that are not pending. -/
def looseMarkers (t : DeclaredType) : List Marker :=
  t.fields.flatMap (·.markers) ++ (t.methods.filter (·.isStatic)).flatMap (·.markers)

end DeclaredType

namespace Reader

/-- The extension attributes of a marker that is on no pending attribute. -/
def looseExtension? (r : Reader) (t : DeclaredType) (m : Marker) : Option Extension :=
  if t.kind = .interfaceType then m.extension? r.recognizer else none

theorem looseExtension?_objectClass (r : Reader) (t : DeclaredType) (m : ObjectClassMarker) :
    r.looseExtension? t (.objectClass m) = none := by
  simp [looseExtension?, Marker.extension?]

/-- The draft after the markers on a type: the first object class marker counts. -/
def declared (r : Reader) (t : DeclaredType) (markers : List Marker) (d : Draft) : Draft :=
  if d.objectClass.isNone && t.isInterface then
    { d with objectClass :=
        (markers.filterMap Marker.objectClass?).head?.map (·.objectClass t.name r.floor) }
  else d

theorem declared_of_isSome (r : Reader) (t : DeclaredType) (markers : List Marker) {d : Draft}
    (h : d.objectClass.isSome = true) : r.declared t markers d = d := by
  obtain ⟨o, ho⟩ := Option.isSome_iff_exists.1 h
  simp [declared, ho]

theorem declared_nil (r : Reader) (t : DeclaredType) (d : Draft) : r.declared t [] d = d := by
  obtain ⟨o, p⟩ := d
  cases o <;> simp [declared]

theorem declared_cons (r : Reader) (t : DeclaredType) (m : Marker) (rest : List Marker)
    (d : Draft) : r.declared t (m :: rest) d = r.declared t rest (r.declared t [m] d) := by
  obtain ⟨o, p⟩ := d
  cases o with
  | some o => simp [declared]
  | none =>
    cases ht : t.isInterface with
    | false => simp [declared, ht]
    | true => cases hm : m.objectClass? <;> simp [declared, ht, hm]

theorem declared_other (r : Reader) (t : DeclaredType) {m : Marker} (hm : m.objectClass? = none)
    (d : Draft) : r.declared t [m] d = d := by
  obtain ⟨o, p⟩ := d
  cases o <;> simp [declared, hm]

/-- A marker does not change whether an object class is in place on a type. -/
theorem allowed_declared (r : Reader) (t : DeclaredType) (m : Marker) (d : Draft) :
    ((r.declared t [m] d).objectClass.isSome || t.isInterface) =
      (d.objectClass.isSome || t.isInterface) := by
  cases ht : t.isInterface with
  | true => rw [Bool.or_true, Bool.or_true]
  | false => simp [declared, ht]

end Reader

namespace DeclaredType

/-- The problem with an attribute marker that is on no pending attribute. -/
def misplacedMarker (t : DeclaredType) : Diagnostic :=
  ⟨.misplacedAttributeMarker, .warning,
    "AttributeDefinition in " ++ t.name ++ " is not attached to an element method", []⟩

/-- The problems with a marker on a member that is not pending. -/
def looseProblems (t : DeclaredType) : Marker → List Diagnostic
  | .attribute _ => [t.misplacedMarker]
  | _ => []

/-- The problems with a marker on the type. An object class marker is allowed on interfaces, and
passed over if there is an object class already. -/
def headProblems (t : DeclaredType) (allowed : Bool) : Marker → List Diagnostic
  | .attribute _ => [t.misplacedMarker]
  | .objectClass _ =>
    if allowed then []
    else
      [⟨.notAnInterface, .error,
        "ObjectClassDefinition applied to non-interface, non-annotation class " ++ t.name, []⟩]
  | .foreign _ => []

theorem headProblems_other (t : DeclaredType) (allowed : Bool) {m : Marker}
    (hm : m.objectClass? = none) : t.headProblems allowed m = t.looseProblems m := by
  match m with
  | .attribute _ => rfl
  | .foreign _ => rfl

end DeclaredType

namespace Collector

variable (r : Reader) (t : DeclaredType) (isRoot : Bool)

/-! ## Markers -/

/-- A marker on the last pending attribute changes this attribute and nothing else. -/
theorem step_marker_member {c : Collector} {front : List Pending} {p : Pending}
    (hcursor : c.cursor = .member (some front.length)) (hpending : c.pending = front ++ [p])
    (m : Marker) :
    c.step r t isRoot (.marker m) =
      pure { c with pending := front ++ [p.mark r.recognizer m] } := by
  have hmodify : ∀ f : Pending → Pending, c.pending.modify front.length f = front ++ [f p] := by
    intro f
    rw [hpending, modify_last]
  have hsame : { c with pending := front ++ [p] } = c := by rw [← hpending]
  match m with
  | .objectClass o =>
    have hbetween : c.cursor ≠ .type := by simp [hcursor]
    simp [step, mark, declare, hbetween, Pending.mark, hsame]
  | .attribute a => simp only [step, mark, describe, hcursor, hmodify, Pending.mark]
  | .foreign f =>
    cases hf : r.recognizer f with
    | some e => simp [step, mark, hf, extend, hcursor, hmodify, Pending.mark]
    | none => simp [step, mark, hf, Pending.mark, hsame]

theorem run_markers_member (markers : List Marker) {c : Collector} {front : List Pending}
    {p : Pending} (hcursor : c.cursor = .member (some front.length))
    (hpending : c.pending = front ++ [p]) :
    c.run r t isRoot (markers.map .marker) =
      pure { c with pending := front ++ [p.marked r.recognizer markers] } := by
  induction markers generalizing c p with
  | nil =>
    have hsame : { c with pending := front ++ [p] } = c := by rw [← hpending]
    rw [Pending.marked_nil, hsame]
    rfl
  | cons m rest ih =>
    rw [List.map_cons, run_cons, step_marker_member r t isRoot hcursor hpending, pure_bind,
      Pending.marked_cons]
    exact ih hcursor rfl

/-- No pending attribute is open for markers. -/
def IsLoose (c : Collector) : Prop := c.cursor = .type ∨ c.cursor = .member none

/-- A marker on no pending attribute, other than an object class marker. -/
theorem yields_mark_loose {c : Collector} (hloose : c.IsLoose) {m : Marker}
    (hm : m.objectClass? = none) :
    Yields (c.mark r t m)
      { c with extensions := c.extensions ++ (r.looseExtension? t m).toList }
      (t.looseProblems m) := by
  match m with
  | .attribute a =>
    have hnone : r.looseExtension? t (.attribute a) = none := by
      simp [Reader.looseExtension?, Marker.extension?]
    have hmark : c.mark r t (.attribute a) = (do
        Reporting.warning .misplacedAttributeMarker t.misplacedMarker.message
        return c) := by
      rcases hloose with h | h
      · simp only [mark, describe, h, DeclaredType.misplacedMarker]
      · simp only [mark, describe, h, DeclaredType.misplacedMarker]
    rw [hmark, hnone, Option.toList_none, List.append_nil]
    exact (yields_warning _ _).then_pure c
  | .foreign f =>
    have hextend : ∀ e, c.extend t e =
        { c with extensions := c.extensions ++ if t.kind = .interfaceType then [e] else [] } := by
      intro e
      rcases hloose with h | h
      · by_cases hkind : t.kind = .interfaceType
        · simp only [extend, h, hkind, if_true]
        · simp only [extend, h, hkind, if_false, List.append_nil]
          rw [← h]
      · by_cases hkind : t.kind = .interfaceType
        · simp only [extend, h, hkind, if_true]
        · simp only [extend, h, hkind, if_false, List.append_nil]
          rw [← h]
    unfold Reader.looseExtension? Marker.extension?
    cases hf : r.recognizer f with
    | some e =>
      simp only [mark, hf, hextend]
      by_cases hkind : t.kind = .interfaceType
      · simp only [hkind, if_true]
        exact yields_pure _
      · simp only [hkind, if_false]
        exact yields_pure _
    | none =>
      simp only [mark, hf, ite_self, Option.toList_none, List.append_nil]
      exact yields_pure c

theorem yields_markers_between (markers : List Marker) {c : Collector}
    (hcursor : c.cursor = .member none) :
    Yields (c.run r t isRoot (markers.map .marker))
      { c with extensions := c.extensions ++ markers.filterMap (r.looseExtension? t) }
      (markers.flatMap t.looseProblems) := by
  induction markers generalizing c with
  | nil =>
    rw [List.filterMap_nil, List.append_nil]
    exact yields_pure c
  | cons m rest ih =>
    have hstep : Yields (c.step r t isRoot (.marker m))
        { c with extensions := c.extensions ++ (r.looseExtension? t m).toList }
        (t.looseProblems m) := by
      cases hm : m.objectClass? with
      | none => exact yields_mark_loose r t (Or.inr hcursor) hm
      | some o =>
        obtain rfl : m = .objectClass o := Marker.eq_of_objectClass? hm
        have hmark : c.step r t isRoot (.marker (.objectClass o)) = pure c := by
          simp [step, mark, declare, hcursor]
        rw [hmark, r.looseExtension?_objectClass, Option.toList_none, List.append_nil]
        exact yields_pure c
    rw [List.map_cons, run_cons, List.flatMap_cons, filterMap_cons_toList, ← List.append_assoc]
    exact hstep.bind (ih hcursor)

theorem yields_declare {c : Collector} (hcursor : c.cursor = .type) (o : ObjectClassMarker) :
    Yields (c.declare r t o) { c with draft := r.declared t [.objectClass o] c.draft }
      (t.headProblems (c.draft.objectClass.isSome || t.isInterface) (.objectClass o)) := by
  cases ho : c.draft.objectClass with
  | some known =>
    have hkept : c.declare r t o = pure c := by simp [declare, ho]
    have hdraft : r.declared t [.objectClass o] c.draft = c.draft := by
      simp [Reader.declared, ho]
    rw [hkept, hdraft]
    exact yields_pure c
  | none =>
    cases ht : t.isInterface with
    | true =>
      have hnew : c.declare r t o = pure
          { c with draft := { c.draft with objectClass := o.objectClass t.name r.floor } } := by
        simp [declare, hcursor, ho, ht]
      have hdraft : r.declared t [.objectClass o] c.draft =
          { c.draft with objectClass := o.objectClass t.name r.floor } := by
        simp [Reader.declared, ho, ht, Marker.objectClass?]
      rw [hnew, hdraft]
      exact yields_pure _
    | false =>
      have hwrong : c.declare r t o = (do
          Reporting.error .notAnInterface
            ("ObjectClassDefinition applied to non-interface, non-annotation class " ++ t.name)
          return c) := by
        simp [declare, hcursor, ho, ht]
      have hdraft : r.declared t [.objectClass o] c.draft = c.draft := by
        simp [Reader.declared, ht]
      rw [hwrong, hdraft]
      exact (yields_error _ _).then_pure c

theorem yields_markers_head (markers : List Marker) {c : Collector} (hcursor : c.cursor = .type) :
    Yields (c.run r t isRoot (markers.map .marker))
      { c with
        extensions := c.extensions ++ markers.filterMap (r.looseExtension? t)
        draft := r.declared t markers c.draft }
      (markers.flatMap (t.headProblems (c.draft.objectClass.isSome || t.isInterface))) := by
  induction markers generalizing c with
  | nil =>
    rw [List.filterMap_nil, List.append_nil, r.declared_nil]
    exact yields_pure c
  | cons m rest ih =>
    have hstep : Yields (c.step r t isRoot (.marker m))
        { c with
          extensions := c.extensions ++ (r.looseExtension? t m).toList
          draft := r.declared t [m] c.draft }
        (t.headProblems (c.draft.objectClass.isSome || t.isInterface) m) := by
      cases hm : m.objectClass? with
      | none =>
        rw [r.declared_other t hm, t.headProblems_other _ hm]
        exact yields_mark_loose r t (Or.inl hcursor) hm
      | some o =>
        obtain rfl : m = .objectClass o := Marker.eq_of_objectClass? hm
        rw [r.looseExtension?_objectClass, Option.toList_none, List.append_nil]
        exact yields_declare r t hcursor o
    have hrest := ih (c := { c with
      extensions := c.extensions ++ (r.looseExtension? t m).toList
      draft := r.declared t [m] c.draft }) hcursor
    rw [r.allowed_declared] at hrest
    rw [List.map_cons, run_cons, List.flatMap_cons, filterMap_cons_toList, ← List.append_assoc,
      r.declared_cons]
    exact hstep.bind hrest

/-! ## Members -/

theorem yields_field (f : Field) (c : Collector) :
    Yields (c.run r t isRoot f.events)
      { c with
        cursor := .type
        extensions := c.extensions ++ f.markers.filterMap (r.looseExtension? t)
        prefixField := if f.isStatic && f.name = prefixFieldName && isRoot then some f
          else c.prefixField }
      (f.markers.flatMap t.looseProblems) := by
  have hmarkers := yields_markers_between r t isRoot f.markers (c := c.enterField isRoot f) rfl
  rw [Field.events, List.cons_append, run_cons, step, pure_bind, run_append]
  exact hmarkers.map _

/-- The fields of a type. The last one with the name of the prefix is kept. -/
theorem yields_fields (fields : List Field) {c : Collector} (hcursor : c.cursor = .type) :
    Yields (c.run r t isRoot (fields.flatMap Field.events))
      { c with
        extensions :=
          c.extensions ++ (fields.flatMap (·.markers)).filterMap (r.looseExtension? t)
        prefixField := (Field.lastPrefix? isRoot fields).or c.prefixField }
      ((fields.flatMap (·.markers)).flatMap t.looseProblems) := by
  induction fields generalizing c with
  | nil =>
    simp only [List.flatMap_nil, List.filterMap_nil, List.append_nil]
    exact yields_pure c
  | cons f rest ih =>
    have hrest := ih (c := { c with
      cursor := .type
      extensions := c.extensions ++ f.markers.filterMap (r.looseExtension? t)
      prefixField := if f.isStatic && f.name = prefixFieldName && isRoot then some f
        else c.prefixField }) rfl
    rw [List.flatMap_cons, List.flatMap_cons, run_append, List.filterMap_append,
      List.flatMap_append, Field.lastPrefix?_cons, ← List.append_assoc, hcursor]
    exact (yields_field r t isRoot f c).bind hrest

/-- The default of a method counts, whether or not the method is pending. -/
theorem enterDefault_eq (m : Method) (value : Constant) (c : Collector) :
    c.enterDefault t m value =
      { c with
        lacking := c.lacking - if t.isOther m then 1 else 0
        pending :=
          match c.cursor with
          | .member (some i) => c.pending.modify i fun p => { p with default := some value }
          | _ => c.pending } := by
  obtain ⟨cursor, pending, extensions, prefixField, lacking, hasValue, draft⟩ := c
  unfold enterDefault DeclaredType.isOther
  by_cases h : (t.isAnnotationType && m.name ≠ "value") = true
  · rw [if_pos h, if_pos h]
    rcases cursor with _ | (_ | i) | _ <;> rfl
  · rw [if_neg h, if_neg h, Int.sub_zero]
    rcases cursor with _ | (_ | i) | _ <;> rfl

theorem run_default_between (m : Method) {c : Collector} (hcursor : c.cursor = .member none) :
    c.run r t isRoot (m.default.map (Event.default m)).toList =
      pure { c with lacking := c.lacking - if t.isOther m && m.default.isSome then 1 else 0 } := by
  cases hd : m.default with
  | none =>
    simp only [Option.map_none, Option.toList_none, Option.isSome_none, Bool.and_false,
      Bool.false_eq_true, if_false, Int.sub_zero]
    rfl
  | some value =>
    have hrun : c.run r t isRoot [Event.default m value] = pure (c.enterDefault t m value) := rfl
    simp only [Option.map_some, Option.toList_some, Option.isSome_some, Bool.and_true, hrun,
      enterDefault_eq, hcursor]

theorem run_default_member (m : Method) {c : Collector} {front : List Pending} {p : Pending}
    (hcursor : c.cursor = .member (some front.length)) (hpending : c.pending = front ++ [p]) :
    c.run r t isRoot (m.default.map (Event.default m)).toList =
      pure { c with
        pending := front ++ [{ p with default := m.default.or p.default }]
        lacking := c.lacking - if t.isOther m && m.default.isSome then 1 else 0 } := by
  cases hd : m.default with
  | none =>
    simp only [Option.map_none, Option.toList_none, Option.isSome_none, Bool.and_false,
      Bool.false_eq_true, if_false, Int.sub_zero, Option.none_or, ← hpending]
    rfl
  | some value =>
    have hmodify : c.pending.modify front.length (fun p => { p with default := some value }) =
        front ++ [{ p with default := some value }] := by
      rw [hpending, modify_last]
    have hrun : c.run r t isRoot [Event.default m value] = pure (c.enterDefault t m value) := rfl
    simp only [Option.map_some, Option.toList_some, Option.isSome_some, Bool.and_true, hrun,
      enterDefault_eq, hcursor, hmodify, Option.some_or]

/-- A static method leaves nothing but its markers and the count of its default. -/
theorem yields_static {m : Method} (hm : m.isStatic = true) (c : Collector) :
    Yields (c.run r t isRoot m.events)
      { c with
        cursor := .type
        extensions := c.extensions ++ m.markers.filterMap (r.looseExtension? t)
        lacking := c.lacking + t.lackingBy m }
      (m.markers.flatMap t.looseProblems) := by
  have hmarkers := yields_markers_between r t isRoot m.markers
    (c := { c with cursor := .member none }) rfl
  have henter : c.enterMethod t m = { c with cursor := .member none } := by
    rw [enterMethod, if_pos hm]
  have hlacking : t.lackingBy m = -(if t.isOther m && m.default.isSome then 1 else 0) := by
    simp [DeclaredType.lackingBy, hm]
  have hrest : ∀ c : Collector, c.cursor = .member none →
      c.run r t isRoot ((m.default.map (Event.default m)).toList ++ [.memberEnd]) =
        pure { c with cursor := .type, lacking := c.lacking + t.lackingBy m } := by
    intro c hcursor
    rw [run_append, run_default_between r t isRoot m hcursor, pure_bind, hlacking]
    rfl
  have hall := hmarkers.bind_pure
    (y := fun c => c.run r t isRoot ((m.default.map (Event.default m)).toList ++ [.memberEnd]))
    (hrest _ rfl)
  rw [Method.events, List.cons_append, List.cons_append, run_cons, step, henter, pure_bind,
    List.append_assoc, run_append]
  exact hall

/-- Any other method leaves a pending attribute that has its markers and its default. -/
theorem run_member {m : Method} (hm : m.isStatic = false) (c : Collector) :
    c.run r t isRoot m.events = pure
      { c with
        cursor := .type
        pending := c.pending ++ [m.pending r.recognizer]
        hasValue := c.hasValue || (t.isAnnotationType && m.name = "value")
        lacking := c.lacking + t.lackingBy m } := by
  have henter : c.enterMethod t m =
      { c with
        pending := c.pending ++ [.ofMethod m]
        cursor := .member (some c.pending.length)
        hasValue := c.hasValue || (t.isAnnotationType && m.name = "value")
        lacking := c.lacking + if t.isOther m then 1 else 0 } := by
    have hstatic : ¬m.isStatic = true := by simp [hm]
    rw [enterMethod, if_neg hstatic]
    unfold DeclaredType.isOther
    by_cases h : (t.isAnnotationType && m.name ≠ "value") = true
    · rw [if_pos h]
      simp only [ne_eq, decide_not] at h
      simp only [h, if_true]
    · rw [if_neg h, Int.add_zero]
      simp only [ne_eq, decide_not] at h
      simp only [h, Bool.false_eq_true, if_false]
  have hlacking : t.lackingBy m =
      (if t.isOther m then 1 else 0) - if t.isOther m && m.default.isSome then 1 else 0 := by
    simp [DeclaredType.lackingBy, hm]
  have hpending : ({ (Pending.ofMethod m).marked r.recognizer m.markers with
      default := m.default.or ((Pending.ofMethod m).marked r.recognizer m.markers).default } :
      Pending) = m.pending r.recognizer := by
    simp [Pending.marked, Pending.ofMethod, Method.pending, Method.marker?, Method.extensions]
  rw [Method.events, List.cons_append, List.cons_append, run_cons, step, pure_bind,
    List.append_assoc, run_append, henter, run_markers_member r t isRoot m.markers rfl rfl,
    pure_bind, run_append, run_default_member r t isRoot m rfl rfl, pure_bind, hpending, hlacking,
    ← Int.add_sub_assoc]
  rfl

theorem yields_methods (methods : List Method) {c : Collector} (hcursor : c.cursor = .type) :
    Yields (c.run r t isRoot (methods.flatMap Method.events))
      { c with
        pending := c.pending ++ (methods.filter (!·.isStatic)).map (Method.pending r.recognizer)
        extensions := c.extensions ++ ((methods.filter (·.isStatic)).flatMap (·.markers)).filterMap
          (r.looseExtension? t)
        hasValue := c.hasValue ||
          (t.isAnnotationType && (methods.filter (!·.isStatic)).any fun m => m.name = "value")
        lacking := c.lacking + t.lacking methods }
      (((methods.filter (·.isStatic)).flatMap (·.markers)).flatMap t.looseProblems) := by
  induction methods generalizing c with
  | nil =>
    simp only [List.flatMap_nil, List.filter_nil, List.map_nil, List.append_nil, List.filterMap_nil,
      List.any_nil, Bool.and_false, Bool.or_false, DeclaredType.lacking_nil, Int.add_zero]
    exact yields_pure c
  | cons m rest ih =>
    cases hm : m.isStatic with
    | true =>
      have hrest := ih (c := { c with
        cursor := .type
        extensions := c.extensions ++ m.markers.filterMap (r.looseExtension? t)
        lacking := c.lacking + t.lackingBy m }) rfl
      have hstep := yields_static r t isRoot hm c
      simp only [List.flatMap_cons, run_append, List.filter_cons, hm, Bool.not_true,
        Bool.false_eq_true, if_false, if_true, List.filterMap_append, List.flatMap_append,
        DeclaredType.lacking_cons, ← List.append_assoc, ← Int.add_assoc, hcursor]
      exact hstep.bind hrest
    | false =>
      have hrest := ih (c := { c with
        cursor := .type
        pending := c.pending ++ [m.pending r.recognizer]
        hasValue := c.hasValue || (t.isAnnotationType && m.name = "value")
        lacking := c.lacking + t.lackingBy m }) rfl
      have hsplit : (c.hasValue || t.isAnnotationType && (decide (m.name = "value") ||
            (rest.filter (!·.isStatic)).any fun m => m.name = "value")) =
          (c.hasValue || t.isAnnotationType && m.name = "value" || t.isAnnotationType &&
            (rest.filter (!·.isStatic)).any fun m => m.name = "value") := by
        rw [Bool.and_or_distrib_left, Bool.or_assoc]
      simp only [List.flatMap_cons, run_append, run_member r t isRoot hm, pure_bind,
        List.filter_cons, hm, Bool.not_false, Bool.false_eq_true, if_false, if_true, List.map_cons,
        List.any_cons, DeclaredType.lacking_cons, hsplit, ← Int.add_assoc, hcursor]
      simp only [List.append_assoc, List.singleton_append] at hrest
      exact hrest

/-! ## All declarations -/

/-- The collector before the end of a type, as it is gathered from the type. -/
def gathered (d : Draft) : Collector :=
  { pending := t.members.map (Method.pending r.recognizer)
    extensions := (t.markers ++ t.looseMarkers).filterMap (r.looseExtension? t)
    prefixField := Field.lastPrefix? isRoot t.fields
    lacking := t.lacking t.methods
    hasValue := t.hasValue
    draft := r.declared t t.markers d }

theorem yields_declarations (d : Draft) :
    Yields ((start d).run r t isRoot
        (t.markers.map .marker ++ t.fields.flatMap Field.events ++ t.methods.flatMap Method.events))
      (gathered r t isRoot d)
      (t.markers.flatMap (t.headProblems (d.objectClass.isSome || t.isInterface)) ++
        t.looseMarkers.flatMap t.looseProblems) := by
  have hhead := yields_markers_head r t isRoot t.markers (c := start d) rfl
  have hfields := yields_fields r t isRoot t.fields
    (c := { start d with
      extensions := (start d).extensions ++ t.markers.filterMap (r.looseExtension? t)
      draft := r.declared t t.markers d }) rfl
  have hmethods := yields_methods r t isRoot t.methods
    (c := { start d with
      extensions := t.markers.filterMap (r.looseExtension? t) ++
        (t.fields.flatMap (·.markers)).filterMap (r.looseExtension? t)
      prefixField := Field.lastPrefix? isRoot t.fields
      draft := r.declared t t.markers d }) rfl
  have hgathered : gathered r t isRoot d =
      { gathered r t isRoot d with
        pending := [] ++ t.members.map (Method.pending r.recognizer)
        extensions := t.markers.filterMap (r.looseExtension? t) ++
          (t.fields.flatMap (·.markers)).filterMap (r.looseExtension? t) ++
          ((t.methods.filter (·.isStatic)).flatMap (·.markers)).filterMap (r.looseExtension? t)
        hasValue := false || t.hasValue
        lacking := 0 + t.lacking t.methods } := by
    simp [gathered, DeclaredType.looseMarkers]
  rw [run_append, run_append, hgathered, DeclaredType.looseMarkers, List.flatMap_append,
    ← List.append_assoc]
  have hkeys : (Field.lastPrefix? isRoot t.fields).or (start d).prefixField =
      Field.lastPrefix? isRoot t.fields := Option.or_none
  rw [hkeys] at hfields
  exact (hhead.bind hfields).bind hmethods

end Collector

end Metatype
