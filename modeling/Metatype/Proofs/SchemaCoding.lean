import Metatype.Encoding.Report
import Metatype.Proofs.JsonReading
import Metatype.Proofs.RecordCoding

/-!
# Schemas and reports that are written and read

Object classes and reports are read back from every text that spells them. Much may be left out of
such a text, and what is left out is told from what is empty.

* `ObjectClass.ofJson?_toJson`, `Report.ofJson?_toJson`: reading what is written; likewise for each
  part.
* `ObjectClass.within_toJson`, `Report.within_toJson`: what is written is not nested deep.
-/

namespace Metatype

open Json

/-! ## Parts -/

theorem ValueType.ofJson?_toJson (t : ValueType) : ofJson? t.toJson = some t := ofText?_text t

theorem Cardinality.ofJson?_toJson (c : Cardinality) : ofJson? c.toJson = some c := by
  rw [ofJson?, toJson, int32?_ofInt, Option.map_some]

theorem Choice.ofJson?_toJson (c : Choice) : ofJson? c.toJson = some c := by
  rw [ofJson?, toJson, record?_object (by simp)]
  rfl

theorem Choice.within_toJson (c : Choice) : c.toJson.Within 1 := within_object (by simp) (by simp)

theorem Designate.ofJson?_toJson (d : Designate) : ofJson? d.toJson = some d := by
  rw [ofJson?, toJson, record?_object (by simp)]
  rfl

theorem Designate.within_toJson (d : Designate) : d.toJson.Within 1 :=
  within_object (by simp) (by simp)

theorem Icon.ofJson?_toJson (i : Icon) : ofJson? i.toJson = some i := by
  rw [ofJson?, toJson, record?_object (by simp)]
  simp [mandatory, List.lookup_cons, Value.string?, int32?_ofInt]

theorem Icon.within_toJson (i : Icon) : i.toJson.Within 1 := within_object (by simp) (by simp)

theorem Extension.ofJson?_toJson (e : Extension) : ofJson? e.toJson = some e := by
  have hattributes : OrderedMap.ofJson? Value.string? (e.attributes.toJson .string) =
      some e.attributes := ofJson?_map_toJson fun _ _ => rfl
  rw [ofJson?, toJson, record?_object (by simp)]
  simp [mandatory, List.lookup_cons, Value.string?, hattributes]

theorem Extension.within_toJson (e : Extension) : e.toJson.Within 2 := by
  have hattributes : (e.attributes.toJson .string).Within 1 :=
    within_map_toJson fun _ _ => within_string _
  exact within_object (by simp) (by simp [hattributes])

/-! ## Attributes -/

theorem Attribute.nodup_keys (a : Attribute) {ms : List (String × Value)}
    (h : a.toJson = .object ms) : (ms.map (·.1)).Nodup := by
  cases h
  have hkeys : Attribute.keys.Nodup := by decide
  simp only [List.map_append]
  exact hkeys.sublist <|
    (((((((List.Sublist.refl ["id", "name"]).append (keys_memberOf ..)).append
      (.refl ["type", "cardinality"])).append (keys_memberOf ..)).append
      (keys_memberOf ..)).append (keys_memberOf ..)).append (.refl ["required"])).append
      (keys_memberOfList ..) |>.append (keys_memberOfList ..)

/-- What is left out of an attribute is missing, or an empty list of choices or extensions. A list
of defaults is left out only if it is missing. -/
theorem Attribute.ofJson?_toJson (a : Attribute) : ofJson? a.toJson = some a := by
  have htext : ∀ s : Option String, Json.optional (s.map .string) Value.string? = some s :=
    fun _ => optional_map fun _ _ => ⟨rfl, nofun⟩
  have hvalueType : Json.optional (some (orNull ValueType.toJson a.valueType)) ValueType.ofJson? =
      some a.valueType := optional_orNull fun t _ => ⟨t.ofJson?_toJson, nofun⟩
  have hdefaults : Json.optional (a.defaults.map Value.ofStrings) (Value.list? Value.string?) =
      some a.defaults := optional_map fun ss _ => ⟨list?_ofStrings ss, nofun⟩
  have hchoices : defaulted (givenList Choice.toJson a.choices) [] (Value.list? Choice.ofJson?) =
      some a.choices := defaulted_givenList fun c _ => c.ofJson?_toJson
  have hextensions : defaulted (givenList Extension.toJson a.extensions) []
      (Value.list? Extension.ofJson?) = some a.extensions :=
    defaulted_givenList fun e _ => e.ofJson?_toJson
  rw [ofJson?, toJson, record?_object (a.nodup_keys rfl)]
  simp [List.lookup_append, List.lookup_cons, lookup_memberOf, lookup_memberOfList, mandatory,
    Value.string?, Value.bool?, Cardinality.ofJson?_toJson, htext, hvalueType, hdefaults, hchoices,
    hextensions]

theorem Attribute.within_toJson (a : Attribute) : a.toJson.Within 4 := by
  have hvalueType : (orNull ValueType.toJson a.valueType).Within 3 :=
    within_orNull (fun t => within_string t.text) a.valueType
  have hchoices : (Value.array (a.choices.map Choice.toJson)).Within 2 :=
    within_array_map fun c _ => c.within_toJson
  have hextensions : (Value.array (a.extensions.map Extension.toJson)).Within 3 :=
    within_array_map fun e _ => e.within_toJson
  have hcardinality : a.cardinality.toJson.Within 3 := within_ofInt32 a.cardinality.count
  refine within_object (a.nodup_keys rfl) ?_
  simp only [List.forall_mem_append, and_assoc]
  exact ⟨by simp, forall_mem_memberOf within_string _, by simp [hvalueType, hcardinality],
    forall_mem_memberOf within_string _, forall_mem_memberOf within_string _,
    forall_mem_memberOf within_ofStrings _, by simp,
    forall_mem_memberOfList (hchoices.mono (by decide)) _, forall_mem_memberOfList hextensions _⟩

/-! ## Object classes -/

theorem ObjectClass.nodup_keys (o : ObjectClass) {ms : List (String × Value)}
    (h : o.toJson = .object ms) : (ms.map (·.1)).Nodup := by
  cases h
  have hkeys : ObjectClass.keys.Nodup := by decide
  simp only [List.map_append]
  have hfirst := List.Sublist.refl ["id", "name", "description", "localization", "attributes"]
  exact hkeys.sublist <|
    (((hfirst.append (keys_memberOfList ..)).append (keys_memberOfList ..)).append
      (keys_memberOfList ..)).append (.refl ["min_version"])

theorem ObjectClass.ofJson?_toJson (o : ObjectClass) : ofJson? o.toJson = some o := by
  have hattributes : Value.list? Attribute.ofJson? (.array (o.attributes.map Attribute.toJson)) =
      some o.attributes := list?_map fun a _ => a.ofJson?_toJson
  have hdesignates : defaulted (givenList Designate.toJson o.designates) []
      (Value.list? Designate.ofJson?) = some o.designates :=
    defaulted_givenList fun d _ => d.ofJson?_toJson
  have hicons : defaulted (givenList Icon.toJson o.icons) [] (Value.list? Icon.ofJson?) =
      some o.icons := defaulted_givenList fun i _ => i.ofJson?_toJson
  have hextensions : defaulted (givenList Extension.toJson o.extensions) []
      (Value.list? Extension.ofJson?) = some o.extensions :=
    defaulted_givenList fun e _ => e.ofJson?_toJson
  have hrevision : Revision.ofJson? o.revision.toJson = some o.revision :=
    Revision.ofText?_text o.revision
  rw [ofJson?, toJson, record?_object (o.nodup_keys rfl)]
  simp [List.lookup_append, List.lookup_cons, lookup_memberOfList, mandatory, Value.string?,
    hattributes, hdesignates, hicons, hextensions, hrevision]

theorem ObjectClass.within_toJson (o : ObjectClass) : o.toJson.Within 6 := by
  have hattributes : (Value.array (o.attributes.map Attribute.toJson)).Within 5 :=
    within_array_map fun a _ => a.within_toJson
  have hdesignates : (Value.array (o.designates.map Designate.toJson)).Within 2 :=
    within_array_map fun d _ => d.within_toJson
  have hicons : (Value.array (o.icons.map Icon.toJson)).Within 2 :=
    within_array_map fun i _ => i.within_toJson
  have hextensions : (Value.array (o.extensions.map Extension.toJson)).Within 3 :=
    within_array_map fun e _ => e.within_toJson
  have hrevision : o.revision.toJson.Within 5 := within_string o.revision.text
  refine within_object (o.nodup_keys rfl) ?_
  simp only [List.forall_mem_append, and_assoc]
  exact ⟨by simp [hattributes], forall_mem_memberOfList (hdesignates.mono (by decide)) _,
    forall_mem_memberOfList (hicons.mono (by decide)) _,
    forall_mem_memberOfList (hextensions.mono (by decide)) _, by simp [hrevision]⟩

/-! ## Reports -/

theorem Diagnostic.nodup_keys (d : Diagnostic) {ms : List (String × Value)}
    (h : d.toJson = .object ms) : (ms.map (·.1)).Nodup := by
  cases h
  have hkeys : ["code", "severity", "message", "context"].Nodup := by decide
  rw [List.map_append]
  exact hkeys.sublist
    ((List.Sublist.refl ["code", "severity", "message"]).append (keys_memberOfList ..))

theorem Diagnostic.ofJson?_toJson (d : Diagnostic) : ofJson? d.toJson = some d := by
  have hcode : Code.ofJson? (.string d.code.name) = some d.code := Code.ofName?_name d.code
  have hseverity : Severity.ofJson? (.string d.severity.name) = some d.severity :=
    Severity.ofName?_name d.severity
  have hcontext : defaulted (givenList .string d.context) [] (Value.list? Value.string?) =
      some d.context := defaulted_givenList fun _ _ => rfl
  rw [ofJson?, toJson, record?_object (d.nodup_keys rfl)]
  simp [List.lookup_cons, lookup_memberOfList, mandatory, Value.string?, hcode, hseverity, hcontext]

theorem Diagnostic.within_toJson (d : Diagnostic) : d.toJson.Within 2 := by
  refine within_object (d.nodup_keys rfl) ?_
  rw [List.forall_mem_append]
  exact ⟨by simp, forall_mem_memberOfList (within_ofStrings d.context) _⟩

theorem Report.ofJson?_toJson (r : Report) : ofJson? r.toJson = some r := by
  have hitems : Value.list? Diagnostic.ofJson? (.array (r.items.map Diagnostic.toJson)) =
      some r.items := list?_map fun d _ => d.ofJson?_toJson
  rw [ofJson?, toJson, record?_object (by simp)]
  simp [List.lookup_cons, mandatory, hitems]

theorem Report.within_toJson (r : Report) : r.toJson.Within 4 := by
  have hitems : (Value.array (r.items.map Diagnostic.toJson)).Within 3 :=
    within_array_map fun d _ => d.within_toJson
  exact within_object (by simp) (by simp [hitems])

/-! ## Texts -/

theorem parse_of_within {v : Value} {d : Nat} (hv : v.Within d) (hd : d ≤ maxDepth)
    {text : String} (h : v.Spells text) : Value.parse text = some v :=
  (parse_eq_some_iff hv.1 h).2 (Nat.le_trans hv.2 hd)

theorem ObjectClass.bind_parse (o : ObjectClass) {text : String} (h : o.toJson.Spells text) :
    (Value.parse text).bind ofJson? = some o := by
  rw [parse_of_within o.within_toJson (by decide) h, Option.bind_some, o.ofJson?_toJson]

theorem Report.bind_parse (r : Report) {text : String} (h : r.toJson.Spells text) :
    (Value.parse text).bind ofJson? = some r := by
  rw [parse_of_within r.within_toJson (by decide) h, Option.bind_some, r.ofJson?_toJson]

theorem Attribute.lookup_defaults (a : Attribute) {ms : List (String × Value)}
    (h : a.toJson = .object ms) : ms.lookup "defaults" = a.defaults.map Value.ofStrings := by
  cases h
  simp [List.lookup_append, List.lookup_cons, lookup_memberOf, lookup_memberOfList]

/-- Object classes and reports are read back from every text that spells them, so no text stands for
two of them. For the list of defaults of an attribute there is a key just if the list is there, be
it empty. -/
theorem output_read_back :
    (∀ (o : ObjectClass) (text : String), o.toJson.Spells text →
      (Value.parse text).bind ObjectClass.ofJson? = some o) ∧
    (∀ (r : Report) (text : String), r.toJson.Spells text →
      (Value.parse text).bind Report.ofJson? = some r) ∧
    (∀ (o o' : ObjectClass) (text : String), o.toJson.Spells text → o'.toJson.Spells text →
      o = o') ∧
    (∀ (r r' : Report) (text : String), r.toJson.Spells text → r'.toJson.Spells text → r = r') ∧
    ∀ (a : Attribute) (ms : List (String × Value)), a.toJson = .object ms →
      ms.lookup "defaults" = a.defaults.map Value.ofStrings := by
  refine ⟨fun o _ => o.bind_parse, fun r _ => r.bind_parse, ?_, ?_, fun a _ => a.lookup_defaults⟩
  · intro o o' text h h'
    exact Option.some.inj ((o.bind_parse h).symm.trans (o'.bind_parse h'))
  · intro r r' text h h'
    exact Option.some.inj ((r.bind_parse h).symm.trans (r'.bind_parse h'))

/-- An object class with an attribute that has no list of defaults and one whose list is empty. -/
def mailerClass : ObjectClass where
  id := "org.mail"
  name := "Mailer"
  description := ""
  localization := "OSGI-INF/l10n"
  attributes :=
    [{ id := "retries", name := "Retries", description := none, valueType := none
       cardinality := ⟨-2147483648⟩, min := some "", max := none, defaults := none
       required := true, choices := [⟨"a \"b\" \n", "1"⟩], extensions := [] },
      { id := "hosts", name := "Hosts", description := some "Where to", valueType := some .string
        cardinality := ⟨2147483647⟩, min := none, max := none, defaults := some []
        required := false, choices := [], extensions := [⟨"org.Secret", "urn:x", "x", ∅⟩] }]
  designates := [⟨"org.mail", "org.mail", true⟩]
  icons := [⟨"mail.png", 32⟩]
  extensions := []
  revision := .v1_3

/-- A report with a problem that has details and one that has none. -/
def mailerReport : Report where
  items :=
    [⟨.sourceFailure, .error, "cannot read org.mail.Address", ["no such file"]⟩,
      ⟨.invalidPrefix, .warning, "prefix 9 is ignored", []⟩]

theorem output_read_back_mailer :
    (Value.parse mailerClass.toJson.pretty).bind ObjectClass.ofJson? = some mailerClass ∧
      (Value.parse mailerReport.toJson.compact).bind Report.ofJson? = some mailerReport ∧
      mailerClass.attributes.map (fun a => a.defaults.map Value.ofStrings) =
        [none, some (.array [])] ∧
      ∀ a ∈ mailerClass.attributes, ∀ ms, a.toJson = .object ms →
        ms.lookup "defaults" = a.defaults.map Value.ofStrings :=
  ⟨output_read_back.1 _ _ (Value.spells_pretty _),
    output_read_back.2.1 _ _ (Value.spells_compact _), rfl,
    fun a _ => output_read_back.2.2.2.2 a⟩

end Metatype
