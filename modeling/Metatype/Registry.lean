import Metatype.Source

/-!
# Registries

A registry holds types by name and is the source of what is loaded from documents. A name is taken
by the first type that comes with it.

* `Registry.nodup`: no name is held twice.
* `Registry.addAll`: adds types in order and stops at the first one whose name is taken.
* `Registry.source`: the registry as a source.
-/

namespace Metatype

/-- Types with distinct names, in the order in which they were added. -/
structure Registry where
  types : List DeclaredType := []
  nodup : (types.map (·.name)).Nodup := by simp

namespace Registry

/-- The registry without types. -/
def empty : Registry := {}

instance : EmptyCollection Registry := ⟨empty⟩

instance : Inhabited Registry := ⟨empty⟩

/-- The number of types. -/
def size (r : Registry) : Nat := r.types.length

/-- The type of a name. -/
def find? (r : Registry) (name : String) : Option DeclaredType :=
  r.types.find? (·.name = name)

/-- Whether a name is taken. -/
def contains (r : Registry) (name : String) : Bool := r.types.any (·.name = name)

/-! ## Adding types -/

theorem not_mem_of_not_contains {r : Registry} {name : String} (h : ¬r.contains name = true) :
    name ∉ r.types.map (·.name) := by
  intro hm
  obtain ⟨t, ht, rfl⟩ := List.mem_map.1 hm
  exact h (List.any_eq_true.2 ⟨t, ht, by simp⟩)

/-- The registry with one more type, unless the name is taken. -/
def insert? (r : Registry) (t : DeclaredType) : Option Registry :=
  if h : r.contains t.name = true then none
  else
    some
      { types := r.types ++ [t]
        nodup := by
          have hn := not_mem_of_not_contains h
          simp only [List.map_append, List.map_cons, List.map_nil]
          refine List.nodup_append.2 ⟨r.nodup, by simp, fun a ha b hb => ?_⟩
          rw [List.mem_singleton.1 hb]
          exact fun hab => hn (hab ▸ ha) }

/-- Adds types in order. Where a name is taken already it stops, keeps what it has added, and
returns that name. -/
def addAll (r : Registry) : List DeclaredType → Registry × Option String
  | [] => (r, none)
  | t :: rest =>
    match r.insert? t with
    | some r => r.addAll rest
    | none => (r, some t.name)

/-! ## As a source -/

/-- The answer of a registry to a name. -/
def lookup (r : Registry) (name : String) : Lookup :=
  match r.find? name with
  | some t => .found t
  | none => .unknown

theorem name_of_find? {r : Registry} {name : String} {t : DeclaredType}
    (h : r.find? name = some t) : t.name = name := by
  simpa using List.find?_some h

theorem find?_of_lookup {r : Registry} {name : String} {t : DeclaredType}
    (h : r.lookup name = .found t) : r.find? name = some t := by
  unfold lookup at h
  split at h
  · rename_i t' hf
    cases h
    exact hf
  · cases h

/-- The source that answers with the types of a registry, each under its own name. -/
def source (r : Registry) : Source where
  lookup := r.lookup
  names := r.types.map (·.name)
  mem_names {name t} h := by
    unfold lookup at h
    split at h
    · rename_i t' hf
      exact List.mem_map.2 ⟨t', List.mem_of_find?_eq_some hf, name_of_find? hf⟩
    · simp at h

end Registry

end Metatype
