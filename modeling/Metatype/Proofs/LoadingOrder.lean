import Metatype.Proofs.DocumentCoding
import Metatype.Proofs.Footprint

/-!
# The order of loading

An extraction asks its source for names and for nothing else. A registry answers a name by the type
that carries it, so it does not matter in which order the types of a registry were loaded, and in
which documents.

* `Reader.read_of_agrees`, `Reader.readType_of_agrees`: extractions depend on the answers of a
  source.
* `Registry.find?_of_perm`: registries of the same types have the same answers.
* `Registry.loading_order`: both for types that are loaded in any order and grouping.
-/

namespace Metatype

open Reporting

/-! ## Sources with the same answers -/

/-- Another source gives the same answers. -/
def Source.Agrees (s s' : Source) : Prop := ∀ name, s'.lookup name = s.lookup name

theorem Source.Agrees.agreesOn {s s' : Source} (h : s.Agrees s') : s.AgreesOn s' Set.univ :=
  fun name _ => h name

namespace Reader

theorem encloses_univ (r : Reader) (root : DeclaredType) : r.Encloses root Set.univ where
  root_interfaces _ _ _ := Set.mem_univ _
  root_elements _ _ _ _ := Set.mem_univ _
  interfaces _ _ _ _ _ _ := Set.mem_univ _
  superclass _ _ _ _ _ _ := Set.mem_univ _
  elements _ _ _ _ _ _ _ _ := Set.mem_univ _

variable {r : Reader} {s : Source} (h : r.source.Agrees s)

include h

/-- An extraction from a root gives the same object class and reports the same problems. -/
theorem read_of_agrees (root : DeclaredType) (before : Report) :
    ((r.withSource s).read root).run before = (r.read root).run before := by
  have houtcome := outcome_of_agreesOn (r.encloses_univ root) h.agreesOn
  have hproblems := problems_of_agreesOn (r.encloses_univ root) h.agreesOn
  rw [yields_read, yields_read, houtcome, hproblems]

theorem readType_of_agrees (name : String) (before : Report) :
    ((r.withSource s).readType name).run before = (r.readType name).run before := by
  unfold readType
  rw [source_withSource, h]
  cases r.source.lookup name with
  | found root => exact read_of_agrees h root before
  | unknown => rfl
  | failed f => rfl

theorem extract_of_agrees (name : String) : (r.withSource s).extract name = r.extract name := by
  unfold extract
  rw [readType_of_agrees h]

end Reader

/-! ## Registries of the same types -/

namespace Registry

variable {r r' : Registry}

/-- Registries that hold the same types in different orders answer every name alike. -/
theorem find?_of_perm (h : r.types.Perm r'.types) (name : String) :
    r.find? name = r'.find? name := by
  ext t
  rw [find?_eq_some_iff, find?_eq_some_iff, h.mem_iff]

theorem agrees_of_perm (h : r.types.Perm r'.types) : r.source.Agrees r'.source := by
  intro name
  have hlookup : r'.lookup name = r.lookup name := by
    rw [lookup, lookup, find?_of_perm h]
  exact hlookup

/-! ## Documents -/

/-- Adds documents one after another, as long as they can be added. -/
def addDocuments (r : Registry) : List String → Except Fault Registry
  | [] => .ok r
  | text :: rest =>
    match r.addDocument text with
    | (r, .ok _) => r.addDocuments rest
    | (_, .error fault) => .error fault

/-- The texts are documents which have the types between them, in any order. -/
def Group (types : List DeclaredType) (texts : List String) : Prop :=
  ∃ chunks, List.Forall₂ (fun text chunk => Document.parse text = .ok chunk) texts chunks ∧
    chunks.flatten.Perm types

theorem addDocuments_of_parse {texts : List String} {chunks : List (List DeclaredType)}
    (h : List.Forall₂ (fun text chunk => Document.parse text = .ok chunk) texts chunks)
    (hnames : ((r.types ++ chunks.flatten).map (·.name)).Nodup) :
    ∃ r', r.addDocuments texts = .ok r' ∧ r'.types = r.types ++ chunks.flatten := by
  induction h generalizing r with
  | nil => exact ⟨r, rfl, by simp⟩
  | @cons text chunk texts chunks hparse _ ih =>
    rw [List.flatten_cons, ← List.append_assoc] at hnames
    have hfirst : ((r.types ++ chunk).map (·.name)).Nodup :=
      hnames.sublist ((List.sublist_append_left _ _).map _)
    obtain ⟨r₁, hadd, htypes⟩ := addTypes_of_nodup hfirst
    rw [← htypes] at hnames
    obtain ⟨r', hrest, htypes'⟩ := ih hnames
    refine ⟨r', ?_, ?_⟩
    · rw [addDocuments, addDocument, hparse]
      dsimp only
      rw [hadd]
      exact hrest
    · rw [htypes', htypes, List.flatten_cons, List.append_assoc]

theorem addDocuments_of_group {types : List DeclaredType} (hnames : (types.map (·.name)).Nodup)
    {texts : List String} (h : Group types texts) :
    ∃ r, empty.addDocuments texts = .ok r ∧ r.types.Perm types := by
  obtain ⟨chunks, hparse, hperm⟩ := h
  have hchunks : (chunks.flatten.map (·.name)).Nodup := (hperm.map (·.name)).nodup_iff.2 hnames
  obtain ⟨r, hadd, htypes⟩ := @addDocuments_of_parse empty texts chunks hparse hchunks
  exact ⟨r, hadd, htypes ▸ hperm⟩

/-- Types with distinct names can be loaded in any order, one by one or in any documents. All
registries that come of it answer every name alike, and every extraction gives the same object class
from them and reports the same problems. -/
theorem loading_order {types : List DeclaredType} (hnames : (types.map (·.name)).Nodup)
    {permuted : List DeclaredType} (hperm : permuted.Perm types) {texts texts' : List String}
    (htexts : Group types texts) (htexts' : Group types texts') :
    ∃ r₁ r₂ r₃ r₄, ofTypes types = .ok r₁ ∧ ofTypes permuted = .ok r₂ ∧
      empty.addDocuments texts = .ok r₃ ∧ empty.addDocuments texts' = .ok r₄ ∧
      ∀ r ∈ [r₂, r₃, r₄],
        (∀ name, r.source.lookup name = r₁.source.lookup name) ∧
        ∀ reader : Reader,
          (∀ root before, ((reader.withSource r.source).read root).run before =
            ((reader.withSource r₁.source).read root).run before) ∧
          (∀ name before, ((reader.withSource r.source).readType name).run before =
            ((reader.withSource r₁.source).readType name).run before) ∧
          ∀ name, (reader.withSource r.source).extract name =
            (reader.withSource r₁.source).extract name := by
  obtain ⟨r₁, hr₁, htypes₁⟩ := ofTypes_of_nodup hnames
  obtain ⟨r₂, hr₂, htypes₂⟩ := ofTypes_of_nodup ((hperm.map (·.name)).nodup_iff.2 hnames)
  obtain ⟨r₃, hr₃, htypes₃⟩ := addDocuments_of_group hnames htexts
  obtain ⟨r₄, hr₄, htypes₄⟩ := addDocuments_of_group hnames htexts'
  refine ⟨r₁, r₂, r₃, r₄, hr₁, hr₂, hr₃, hr₄, fun r hr => ?_⟩
  have hsame : r₁.types.Perm r.types := by
    rw [htypes₁]
    simp only [List.mem_cons, List.not_mem_nil, or_false] at hr
    rcases hr with rfl | rfl | rfl
    · exact (htypes₂ ▸ hperm).symm
    · exact htypes₃.symm
    · exact htypes₄.symm
  have hagrees := agrees_of_perm hsame
  refine ⟨hagrees, fun reader => ⟨?_, ?_, ?_⟩⟩
  · exact Reader.read_of_agrees (r := reader.withSource r₁.source) hagrees
  · exact Reader.readType_of_agrees (r := reader.withSource r₁.source) hagrees
  · exact Reader.extract_of_agrees (r := reader.withSource r₁.source) hagrees

/-- An annotation type that inherits an element. -/
def depot : DeclaredType :=
  { name := "com.acme.Depot", kind := .annotationType, interfaces := ["com.acme.Site"]
    markers := [.objectClass {}]
    methods := [{ name := "size", returnType := "int", default := some (.int 3) }] }

def site : DeclaredType :=
  { name := "com.acme.Site", kind := .interfaceType
    methods := [{ name := "zone", returnType := "com.acme.Zone[]" }] }

def zone : DeclaredType :=
  { name := "com.acme.Zone", kind := .enumType
    fields := [{ name := "north", typeName := "com.acme.Zone", isEnumerator := true }] }

/-- The text of a document of these types. -/
def documentOf (types : List DeclaredType) : String :=
  (Json.Value.array (types.map DeclaredType.toJson)).compact

theorem parse_documentOf (types : List DeclaredType) (h : types ⊆ [depot, site, zone])
    (hd : (Json.Value.array (types.map DeclaredType.toJson)).depth ≤ Json.maxDepth) :
    Document.parse (documentOf types) = .ok types := by
  have hfree : ∀ t ∈ [depot, site, zone], t.FloatFree := by
    unfold DeclaredType.FloatFree
    decide
  exact Document.parse_compact (fun t ht => hfree t (h ht)) hd

def depotRegistry : Registry := { types := [depot, site, zone], nodup := by decide }

def depotReader : Reader := { source := depotRegistry.source }

/-- The type that inherits has both elements, one of them with the constants to choose from. -/
theorem exists_extract_depot :
    ∃ o, (depotReader.extract "com.acme.Depot").objectClass = some o ∧
      o.attributes.map (fun a => (a.id, a.choices.map (·.value))) =
        [("size", []), ("zone", ["north"])] := by
  have hfound : depotReader.source.lookup "com.acme.Depot" = .found depot := rfl
  have hsite : depotReader.route.source.lookup "com.acme.Site" = .found site := rfl
  have hsteps : depotReader.stepsAbove depot = [.visit site] := by
    rw [Reader.stepsAbove, depot, Ancestry.follow_descend (by decide) _ hsite rfl, site,
      Ancestry.follow_nil, Ancestry.follow_nil]
    rfl
  have hlineage : depotReader.lineage depot = [depot, site] := by
    rw [Reader.lineage_eq, hsteps]
    rfl
  obtain ⟨o, ho⟩ : ∃ o, depotReader.outcome depot = some o :=
    Option.isSome_iff_exists.1 ((depotReader.isSome_outcome depot).trans rfl)
  refine ⟨o, ?_, ?_⟩
  · rw [depotReader.extract_of_found hfound]
    exact ho
  · rw [depotReader.attributes_of_outcome ho, Reader.visits, hlineage]
    decide

/-- Both ways of loading find the type, and its object class has the element that it inherits from a
type of another document. -/
theorem loading_order_depot :
    ∃ r₁ r₂, empty.addDocuments [documentOf [zone, depot], documentOf [site]] = .ok r₁ ∧
      empty.addDocuments [documentOf [], documentOf [depot, site, zone]] = .ok r₂ ∧
      (∀ r ∈ [r₁, r₂], r.source.lookup "com.acme.Depot" = .found depot ∧
        ∃ o, ((depotReader.withSource r.source).extract "com.acme.Depot").objectClass = some o ∧
          o.attributes.map (fun a => (a.id, a.choices.map (·.value))) =
            [("size", []), ("zone", ["north"])]) ∧
      ∀ reader : Reader, (reader.withSource r₁.source).extract "com.acme.Depot" =
        (reader.withSource r₂.source).extract "com.acme.Depot" := by
  have hgroup : Group [depot, site, zone] [documentOf [zone, depot], documentOf [site]] := by
    have hfirst := parse_documentOf [zone, depot] (by simp) (by decide)
    have hsecond := parse_documentOf [site] (by simp) (by decide)
    exact ⟨[[zone, depot], [site]], .cons hfirst (.cons hsecond .nil),
      @List.perm_append_comm _ [_] [_, _]⟩
  have hgroup' : Group [depot, site, zone] [documentOf [], documentOf [depot, site, zone]] := by
    have hfirst := parse_documentOf [] (by simp) (by decide)
    have hsecond := parse_documentOf [depot, site, zone] (by simp) (by decide)
    exact ⟨[[], [depot, site, zone]], .cons hfirst (.cons hsecond .nil), .refl _⟩
  obtain ⟨r₁, r₂, r₃, r₄, hr₁, -, hr₃, hr₄, h⟩ :=
    loading_order (by decide) (.refl _) hgroup hgroup'
  cases hr₁.symm.trans (rfl : ofTypes [depot, site, zone] = .ok depotRegistry)
  have hsame : ∀ r ∈ [r₃, r₄], ∀ reader : Reader,
      (reader.withSource r.source).extract "com.acme.Depot" =
        (reader.withSource depotRegistry.source).extract "com.acme.Depot" :=
    fun r hr reader => ((h r (List.mem_cons_of_mem _ hr)).2 reader).2.2 "com.acme.Depot"
  refine ⟨r₃, r₄, hr₃, hr₄, fun r hr => ⟨?_, ?_⟩, fun reader => ?_⟩
  · exact ((h r (List.mem_cons_of_mem _ hr)).1 "com.acme.Depot").trans rfl
  · rw [hsame r hr depotReader]
    exact exists_extract_depot
  · exact (hsame r₃ (by simp) reader).trans (hsame r₄ (by simp) reader).symm

end Registry

end Metatype
