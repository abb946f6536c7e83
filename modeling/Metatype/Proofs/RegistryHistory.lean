import Mathlib.Data.Finset.Card
import Metatype.Document

/-!
# Histories of registries

A name belongs to the first type that was offered under it. Types are offered one by one, and the
rest of a sequence is not offered any more after one whose name is taken.

* `Registry.Clash`: where a sequence of types is cut off.
* `Registry.addTypes_of_nodup`, `Registry.addTypes_of_clash`: what becomes of a sequence.
* `Registry.History.run_first_wins`: what a registry holds after any operations.
-/

namespace Metatype.Registry

variable {r : Registry} {types before after : List DeclaredType} {t : DeclaredType}
  {name : String}

/-! ## Names -/

theorem contains_iff : r.contains name = true ↔ name ∈ r.types.map (·.name) := by
  simp [contains]

theorem isSome_find? : (r.find? name).isSome = r.contains name := by
  rw [Bool.eq_iff_iff, contains_iff]
  simp [find?]

/-- The types are found each under its own name, and nothing else is found. -/
theorem find?_eq_some_iff : r.find? name = some t ↔ t ∈ r.types ∧ t.name = name := by
  constructor
  · exact fun h => ⟨List.mem_of_find?_eq_some h, name_of_find? h⟩
  · rintro ⟨hmem, rfl⟩
    have hsome : (r.find? t.name).isSome = true := by
      rw [isSome_find?, contains_iff]
      exact List.mem_map_of_mem hmem
    obtain ⟨u, hu⟩ := Option.isSome_iff_exists.1 hsome
    have hname := name_of_find? hu
    rw [hu, List.inj_on_of_nodup_map r.nodup (List.mem_of_find?_eq_some hu) hmem hname]

/-! ## Adding types -/

theorem not_mem_of_nodup {held rest : List DeclaredType}
    (h : ((held ++ t :: rest).map (·.name)).Nodup) : t.name ∉ held.map (·.name) := by
  rw [List.map_append, List.nodup_append] at h
  exact fun hmem => h.2.2 _ hmem _ List.mem_cons_self rfl

theorem insert?_of_not_mem (h : t.name ∉ r.types.map (·.name)) :
    ∃ r', r.insert? t = some r' ∧ r'.types = r.types ++ [t] := by
  have hnot : ¬r.contains t.name = true := fun hcontains => h (contains_iff.1 hcontains)
  rw [insert?, dif_neg hnot]
  exact ⟨_, rfl, rfl⟩

theorem insert?_of_mem (h : t.name ∈ r.types.map (·.name)) : r.insert? t = none :=
  dif_pos (contains_iff.2 h)

/-- Types with new names are added, whatever comes after them. -/
theorem addAll_append (h : ((r.types ++ before).map (·.name)).Nodup)
    (rest : List DeclaredType) :
    ∃ r' : Registry, r.addAll (before ++ rest) = r'.addAll rest ∧ r'.types = r.types ++ before := by
  induction before generalizing r with
  | nil => exact ⟨r, rfl, (List.append_nil _).symm⟩
  | cons t before ih =>
    have hmove : r.types ++ t :: before = (r.types ++ [t]) ++ before := by simp
    obtain ⟨r₁, hinsert, htypes⟩ := insert?_of_not_mem (not_mem_of_nodup h)
    rw [hmove, ← htypes] at h
    obtain ⟨r', hadd, htypes'⟩ := ih h
    refine ⟨r', ?_, ?_⟩
    · rw [List.cons_append, addAll, hinsert]
      exact hadd
    · rw [htypes', htypes, hmove]

/-- The first of some types whose name is taken, by one that is held or by one before it. -/
structure Clash (held types before : List DeclaredType) (t : DeclaredType)
    (after : List DeclaredType) : Prop where
  split : types = before ++ t :: after
  fresh : ((held ++ before).map (·.name)).Nodup
  taken : t.name ∈ (held ++ before).map (·.name)

theorem nodup_or_clash {held : List DeclaredType} (h : (held.map (·.name)).Nodup)
    (types : List DeclaredType) :
    ((held ++ types).map (·.name)).Nodup ∨ ∃ before t after, Clash held types before t after := by
  induction types generalizing held with
  | nil => exact .inl (by simpa using h)
  | cons t rest ih =>
    by_cases hmem : t.name ∈ held.map (·.name)
    · exact .inr ⟨[], t, rest, rfl, by simpa using h, by simpa using hmem⟩
    · have hnew : ((held ++ [t]).map (·.name)).Nodup := by
        rw [List.map_append]
        exact h.append (List.nodup_singleton _) (by simpa using hmem)
      have hmove : held ++ t :: rest = (held ++ [t]) ++ rest := by simp
      rcases ih hnew with hnodup | ⟨before, t', after, hclash⟩
      · exact .inl (hmove ▸ hnodup)
      · refine .inr ⟨t :: before, t', after, ?_, ?_, ?_⟩
        · rw [hclash.split, List.cons_append]
        · simpa using hclash.fresh
        · simpa using hclash.taken

/-- Types with distinct new names are all added. -/
theorem addTypes_of_nodup (h : ((r.types ++ types).map (·.name)).Nodup) :
    ∃ r', r.addTypes types = (r', .ok types.length) ∧ r'.types = r.types ++ types := by
  obtain ⟨r', hadd, htypes⟩ := addAll_append h []
  rw [List.append_nil] at hadd
  refine ⟨r', ?_, htypes⟩
  rw [addTypes, hadd]
  rfl

/-- Of other types those before the first clash are added. -/
theorem addTypes_of_clash (h : Clash r.types types before t after) :
    ∃ r', r.addTypes types = (r', .error (.duplicate t.name)) ∧ r'.types = r.types ++ before := by
  obtain ⟨r', hadd, htypes⟩ := addAll_append h.fresh (t :: after)
  have htaken : t.name ∈ r'.types.map (·.name) := htypes ▸ h.taken
  rw [addAll, insert?_of_mem htaken] at hadd
  refine ⟨r', ?_, htypes⟩
  rw [addTypes, h.split, hadd]

theorem addTypes_eq_duplicate_iff {n : String} :
    (r.addTypes types).2 = .error (.duplicate n) ↔
      ∃ before t after, Clash r.types types before t after ∧ t.name = n := by
  constructor
  · intro hresult
    rcases nodup_or_clash r.nodup types with hnodup | ⟨before, t, after, hclash⟩
    · obtain ⟨r', hadd, -⟩ := addTypes_of_nodup hnodup
      rw [hadd] at hresult
      cases hresult
    · obtain ⟨r', hadd, -⟩ := addTypes_of_clash hclash
      rw [hadd] at hresult
      cases hresult
      exact ⟨before, t, after, hclash, rfl⟩
  · rintro ⟨before, t, after, hclash, rfl⟩
    obtain ⟨r', hadd, -⟩ := addTypes_of_clash hclash
    rw [hadd]

theorem ofTypes_of_nodup (h : (types.map (·.name)).Nodup) :
    ∃ r', ofTypes types = .ok r' ∧ r'.types = types := by
  obtain ⟨r', hadd, htypes⟩ := @addAll_append empty types h []
  rw [List.append_nil] at hadd
  refine ⟨r', ?_, htypes⟩
  rw [ofTypes, hadd]
  rfl

theorem ofTypes_of_clash (h : Clash [] types before t after) :
    ofTypes types = .error (.duplicate t.name) := by
  obtain ⟨r', hadd, htypes⟩ := addAll_append (r := empty) h.fresh (t :: after)
  have htaken : t.name ∈ r'.types.map (·.name) := htypes ▸ h.taken
  rw [addAll, insert?_of_mem htaken] at hadd
  rw [ofTypes, h.split, hadd]

/-! ## Operations -/

/-- What is done to a registry. -/
inductive Operation
  | insert (t : DeclaredType)
  | addDocument (text : String)
  /-- Puts a registry of the types in place of the present one, if there is such a registry. -/
  | replace (types : List DeclaredType)

namespace Operation

/-- Adds types to the registry that is there. -/
def Adds : Operation → List DeclaredType → Prop
  | insert t, types => types = [t]
  | addDocument text, types => Document.parse text = .ok types
  | replace _, _ => False

/-- Whether another registry takes the place of the present one. -/
def renews : Operation → Bool
  | replace types =>
    match ofTypes types with
    | .ok _ => true
    | .error _ => false
  | _ => false

end Operation

/-- The registry after an operation, and its result. -/
def apply (r : Registry) : Operation → Registry × Except Fault Nat
  | .insert t => r.addTypes [t]
  | .addDocument text => r.addDocument text
  | .replace types =>
    match ofTypes types with
    | .ok r' => (r', .ok types.length)
    | .error fault => (r, .error fault)

theorem apply_of_adds {op : Operation} (h : op.Adds types) : r.apply op = r.addTypes types := by
  cases op with
  | insert t =>
    cases h
    rfl
  | addDocument text =>
    have hparse : Document.parse text = .ok types := h
    rw [apply, addDocument, hparse]
  | replace => cases h

/-! ## Histories -/

/-- The types that are offered, up to and with the first one whose name is taken. -/
def offer (held : List DeclaredType) : List DeclaredType → List DeclaredType
  | [] => []
  | t :: rest =>
    if t.name ∈ held.map (·.name) then [t] else t :: offer (held ++ [t]) rest

/-- A registry, and what it has been offered since it was made. -/
structure History where
  registry : Registry := .empty
  /-- All types since then that the registry was asked to take. In a document, or any other list,
  with a type whose name is taken, that type is offered and refused. The types behind it in the same
  document are not offered: they are not looked at any more, and a name that only they carry remains
  free. -/
  offered : List DeclaredType := []

namespace History

/-- One operation more. -/
def step (h : History) (op : Operation) : History where
  registry := (h.registry.apply op).1
  offered :=
    match op with
    | .insert t => h.offered ++ offer h.registry.types [t]
    | .addDocument text =>
      match Document.parse text with
      | .ok types => h.offered ++ offer h.registry.types types
      | .error _ => h.offered
    | .replace types => if op.renews then types else h.offered

/-- The history of some operations, with an empty registry at first. -/
def run (ops : List Operation) : History := ops.foldl step {}

theorem run_concat (ops : List Operation) (op : Operation) :
    run (ops ++ [op]) = (run ops).step op := by
  rw [run, List.foldl_append]
  rfl

/-- Under every name the registry has the first type that it was offered. -/
def FirstWins (h : History) : Prop :=
  ∀ name, h.registry.find? name = h.offered.find? (·.name = name)

theorem offer_of_nodup {held : List DeclaredType}
    (h : ((held ++ types).map (·.name)).Nodup) : offer held types = types := by
  induction types generalizing held with
  | nil => rfl
  | cons t rest ih =>
    rw [offer, if_neg (not_mem_of_nodup h), ih (by simpa using h)]

theorem offer_of_clash {held : List DeclaredType} (h : Clash held types before t after) :
    offer held types = before ++ [t] := by
  obtain ⟨rfl, hfresh, htaken⟩ := h
  induction before generalizing held with
  | nil => rw [List.nil_append, offer, if_pos (by simpa using htaken), List.nil_append]
  | cons u before ih =>
    rw [List.cons_append, offer, if_neg (not_mem_of_nodup hfresh),
      ih (by simpa using hfresh) (by simpa using htaken), List.cons_append]

theorem find?_of_types_append {r' : Registry} (h : r'.types = r.types ++ types) (name : String) :
    r'.find? name = (r.find? name).or (types.find? (·.name = name)) := by
  rw [find?, h, List.find?_append]
  rfl

theorem firstWins_addTypes {h : History} (hfirst : h.FirstWins) (types : List DeclaredType) :
    FirstWins ⟨(h.registry.addTypes types).1, h.offered ++ offer h.registry.types types⟩ := by
  intro name
  rcases nodup_or_clash h.registry.nodup types with hnodup | ⟨before, t, after, hclash⟩
  · obtain ⟨r', hadd, htypes⟩ := addTypes_of_nodup hnodup
    rw [hadd, offer_of_nodup hnodup, List.find?_append, ← hfirst name,
      find?_of_types_append htypes]
  · obtain ⟨r', hadd, htypes⟩ := addTypes_of_clash hclash
    have hfind := find?_of_types_append htypes name
    rw [hadd, offer_of_clash hclash, List.find?_append, List.find?_append, ← hfirst name,
      ← Option.or_assoc, ← hfind]
    -- The type whose name is taken comes after the one that has the name.
    by_cases hname : t.name = name
    · have hsome : (r'.find? name).isSome = true := by
        rw [isSome_find?, contains_iff, htypes, ← hname]
        exact hclash.taken
      exact (Option.or_of_isSome hsome).symm
    · simp [hname]

theorem firstWins_step {h : History} (hfirst : h.FirstWins) (op : Operation) :
    (h.step op).FirstWins := by
  cases op with
  | insert t => exact firstWins_addTypes hfirst [t]
  | addDocument text =>
    rw [step, apply, addDocument]
    cases Document.parse text with
    | ok types => exact firstWins_addTypes hfirst types
    | error fault => exact hfirst
  | replace types =>
    rw [step, apply, Operation.renews]
    rcases nodup_or_clash empty.nodup types with hnodup | ⟨before, t, after, hclash⟩
    · obtain ⟨r', hnew, htypes⟩ := @ofTypes_of_nodup types hnodup
      rw [hnew]
      intro name
      exact htypes ▸ rfl
    · rw [ofTypes_of_clash hclash]
      exact hfirst

theorem firstWins_run (ops : List Operation) : (run ops).FirstWins := by
  induction ops using List.reverseRecOn with
  | nil => exact fun _ => rfl
  | append_singleton ops op ih =>
    rw [run_concat]
    exact firstWins_step ih op

/-- Operations other than a renewal keep what is there. -/
theorem prefix_step (h : History) {op : Operation} (hop : op.renews = false) :
    h.registry.types <+: (h.step op).registry.types := by
  have hadd : ∀ types, h.registry.types <+: (h.registry.addTypes types).1.types := by
    intro types
    rcases nodup_or_clash h.registry.nodup types with hnodup | ⟨before, t, after, hclash⟩
    · obtain ⟨r', hadd, htypes⟩ := addTypes_of_nodup hnodup
      exact ⟨types, by rw [hadd, htypes]⟩
    · obtain ⟨r', hadd, htypes⟩ := addTypes_of_clash hclash
      exact ⟨before, by rw [hadd, htypes]⟩
  cases op with
  | insert t => exact hadd [t]
  | addDocument text =>
    rw [step, apply, addDocument]
    cases Document.parse text with
    | ok types => exact hadd types
    | error fault => exact List.prefix_rfl
  | replace types =>
    rw [step, apply]
    rw [Operation.renews] at hop
    cases hnew : ofTypes types with
    | ok r' =>
      rw [hnew] at hop
      cases hop
    | error fault => exact List.prefix_rfl

theorem find?_run_append (ops : List Operation) {later : List Operation}
    (hlater : ∀ op ∈ later, op.renews = false)
    (hfind : (run ops).registry.find? name = some t) :
    (run (ops ++ later)).registry.find? name = some t := by
  induction later using List.reverseRecOn with
  | nil => rwa [List.append_nil]
  | append_singleton later op ih =>
    have hbefore := ih fun op hop => hlater op (List.mem_append_left _ hop)
    obtain ⟨added, htypes⟩ := prefix_step (run (ops ++ later)) (hlater op (by simp))
    rw [← List.append_assoc, run_concat, find?_of_types_append htypes.symm, hbefore,
      Option.some_or]

/-- The size is the number of the names that were offered. -/
theorem size_of_firstWins {h : History} (hfirst : h.FirstWins) :
    h.registry.size = (h.offered.map (·.name)).toFinset.card := by
  have hnames : (h.registry.types.map (·.name)).toFinset = (h.offered.map (·.name)).toFinset := by
    ext name
    have hsome := congrArg Option.isSome (hfirst name)
    rw [isSome_find?, Bool.eq_iff_iff, contains_iff] at hsome
    simpa using hsome
  rw [← hnames, List.toFinset_card_of_nodup h.registry.nodup, List.length_map, size]

/-- After any operations a registry has under every name the first type that was offered under it
since the registry was made, which carries that name. Only a registry that takes its place can have
another one there. Its size is the number of names, and it contains the names that it has types for.
Types are added up to the first one whose name is taken, which makes the operation fail; a text that
is no document changes nothing. -/
theorem run_first_wins (ops : List Operation) :
    (∀ name, (run ops).registry.find? name = (run ops).offered.find? (·.name = name)) ∧
    (∀ name t, (run ops).registry.find? name = some t → t.name = name) ∧
    (∀ later, (∀ op ∈ later, op.renews = false) → ∀ name t,
      (run ops).registry.find? name = some t →
        (run (ops ++ later)).registry.find? name = some t) ∧
    (run ops).registry.size = ((run ops).offered.map (·.name)).toFinset.card ∧
    (∀ name, (run ops).registry.contains name = ((run ops).registry.find? name).isSome) ∧
    (∀ op types, op.Adds types →
      (∀ n, ((run ops).registry.apply op).2 = .error (.duplicate n) ↔
        ∃ before t after, Clash (run ops).registry.types types before t after ∧ t.name = n) ∧
      (∀ before t after, Clash (run ops).registry.types types before t after →
        ((run ops).registry.apply op).1.types = (run ops).registry.types ++ before) ∧
      ((∀ before t after, ¬Clash (run ops).registry.types types before t after) →
        ((run ops).registry.apply op).2 = .ok types.length ∧
          ((run ops).registry.apply op).1.types = (run ops).registry.types ++ types)) ∧
    ∀ text fault, Document.parse text = .error fault →
      (run ops).registry.apply (.addDocument text) =
        ((run ops).registry, .error (.document fault)) := by
  have hfirst := firstWins_run ops
  refine ⟨hfirst, fun _ _ => name_of_find?, fun _ hlater _ _ => find?_run_append ops hlater,
    size_of_firstWins hfirst, fun _ => isSome_find?.symm, ?_, ?_⟩
  · intro op types hop
    rw [apply_of_adds hop]
    refine ⟨fun n => addTypes_eq_duplicate_iff, fun before t after hclash => ?_, fun hnone => ?_⟩
    · obtain ⟨r', hadd, htypes⟩ := addTypes_of_clash hclash
      rw [hadd, htypes]
    · rcases nodup_or_clash (run ops).registry.nodup types with hnodup | ⟨b, t, a, hclash⟩
      · obtain ⟨r', hadd, htypes⟩ := addTypes_of_nodup hnodup
        rw [hadd]
        exact ⟨rfl, htypes⟩
      · exact absurd hclash (hnone b t a)
  · intro text fault hparse
    rw [apply, addDocument, hparse]

/-- Two types of one name are added, of which the second one is refused. A registry that would hold
a name twice does not take the place of the first. -/
def clashingOps : List Operation :=
  [.insert { name := "A" }, .replace [{ name := "B" }, { name := "B" }],
    .insert { name := "A", declaredAbstract := true }, .insert { name := "C" }]

theorem run_first_wins_clashing :
    (run clashingOps).registry.find? "A" = some { name := "A" } ∧
      (run clashingOps).registry.size = 2 ∧
      ((run clashingOps).registry.apply (.insert { name := "C" })).2 =
        .error (.duplicate "C") := by
  obtain ⟨hfirst, -, -, hsize, -, hadds, -⟩ := run_first_wins clashingOps
  refine ⟨(hfirst "A").trans rfl, hsize.trans (by decide), ?_⟩
  exact ((hadds (.insert { name := "C" }) [{ name := "C" }] rfl).1 "C").2
    ⟨[], _, [], ⟨rfl, by decide, by decide⟩, rfl⟩

end History

end Metatype.Registry
