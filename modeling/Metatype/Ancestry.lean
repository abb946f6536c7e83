import Metatype.Report

/-!
# Ancestor interfaces

A walk from a type to the interfaces it inherits from, in depth, each name once. Interfaces of the
platform are left out and superclasses are not followed. A name that leads to no type is recorded
as such, and the walk goes on with the next one.

* `Ancestry.follow_nil`, `Ancestry.follow_cons`: the walk, one declared name at a time.
* `Ancestry.walk`: the walk from a root, which is visited first.
* `Ancestry.visited_subset_follow`: visited names stay visited.
-/

namespace Metatype

namespace Ancestry

/-! ## Steps -/

/-- What a walk meets. -/
inductive Step
  | visit (t : DeclaredType)
  /-- The source knows no type of a name that the owner declares. -/
  | unknown (name owner : String)
  /-- The source fails on a name that the owner declares. -/
  | failed (name owner : String) (f : Failure)
  deriving Repr

/-- The type that a step visits. -/
def Step.visited? : Step → Option DeclaredType
  | .visit t => some t
  | _ => none

/-- The message for an ancestor that cannot be had. -/
def missing (name owner : String) : String :=
  "Could not obtain super interface " ++ name ++ " of class " ++ owner

/-- Reports a step that leads to no type. -/
def Step.report : Step → Reporting Unit
  | .visit _ => pure ()
  | .unknown name owner => .error .unresolvedType (missing name owner)
  | .failed name owner f => .failure .sourceFailure f (missing name owner)

/-! ## The walk -/

/-- Where a walk looks, what it leaves out, and which types it goes on from. -/
structure Route where
  source : Source
  platform : List String
  goOn : DeclaredType → Bool

/-- The walk through names that a type declares, with the proof that no visited name is
forgotten. -/
def followAll (r : Route) (owner : String) (names visited : List String) :
    { w : List Step × List String // visited ⊆ w.2 } :=
  match names with
  | [] => ⟨([], visited), fun _ h => h⟩
  | name :: rest =>
    if TypeName.isPlatform r.platform name then followAll r owner rest visited
    else if _hv : name ∈ visited then followAll r owner rest visited
    else
      match _hf : r.source.lookup name with
      | .found t =>
        if r.goOn t then
          let above := followAll r t.name t.interfaces (name :: visited)
          let after := followAll r owner rest above.1.2
          ⟨(.visit t :: above.1.1 ++ after.1.1, after.1.2),
            fun _ h => after.2 (above.2 (List.mem_cons_of_mem _ h))⟩
        else
          let after := followAll r owner rest (name :: visited)
          ⟨(.visit t :: after.1.1, after.1.2), fun _ h => after.2 (List.mem_cons_of_mem _ h)⟩
      | .unknown =>
        let after := followAll r owner rest (name :: visited)
        ⟨(.unknown name owner :: after.1.1, after.1.2),
          fun _ h => after.2 (List.mem_cons_of_mem _ h)⟩
      | .failed f =>
        let after := followAll r owner rest (name :: visited)
        ⟨(.failed name owner f :: after.1.1, after.1.2),
          fun _ h => after.2 (List.mem_cons_of_mem _ h)⟩
termination_by (r.source.unvisited visited, names.length)
decreasing_by
  · exact Prod.Lex.right _ (by simp)
  · exact Prod.Lex.right _ (by simp)
  · exact Prod.Lex.left _ _ (r.source.unvisited_lt _hf _hv)
  · exact Prod.Lex.left _ _
      (Nat.lt_of_le_of_lt (r.source.unvisited_mono above.2) (r.source.unvisited_lt _hf _hv))
  · exact Prod.Lex.left _ _ (r.source.unvisited_lt _hf _hv)
  all_goals
    have hle := r.source.unvisited_mono (List.subset_cons_self name visited)
    rcases Nat.lt_or_eq_of_le hle with hlt | heq
    · exact Prod.Lex.left _ _ hlt
    · rw [heq]
      exact Prod.Lex.right _ (by simp)

/-- The walk through names that a type declares: its steps, and the names visited by then. -/
def follow (r : Route) (owner : String) (names visited : List String) : List Step × List String :=
  (followAll r owner names visited).1

theorem follow_nil (r : Route) (owner : String) (visited : List String) :
    follow r owner [] visited = ([], visited) := by
  rw [follow, followAll]

theorem follow_cons (r : Route) (owner name : String) (rest visited : List String) :
    follow r owner (name :: rest) visited =
      if TypeName.isPlatform r.platform name then follow r owner rest visited
      else if name ∈ visited then follow r owner rest visited
      else
        match r.source.lookup name with
        | .found t =>
          if r.goOn t then
            let above := follow r t.name t.interfaces (name :: visited)
            let after := follow r owner rest above.2
            (.visit t :: above.1 ++ after.1, after.2)
          else
            let after := follow r owner rest (name :: visited)
            (.visit t :: after.1, after.2)
        | .unknown =>
          let after := follow r owner rest (name :: visited)
          (.unknown name owner :: after.1, after.2)
        | .failed f =>
          let after := follow r owner rest (name :: visited)
          (.failed name owner f :: after.1, after.2) := by
  rw [follow, followAll]
  split
  · rfl
  · split
    · rfl
    · simp only [follow]
      split
      · rename_i t hf
        rw [hf]
        dsimp only
        split <;> rfl
      · rename_i hf
        rw [hf]
      · rename_i f hf
        rw [hf]

theorem visited_subset_follow (r : Route) (owner : String) (names visited : List String) :
    visited ⊆ (follow r owner names visited).2 :=
  (followAll r owner names visited).2

/-! ## From a root -/

/-- The walk from a root: the root is visited whether or not its name was before. -/
def walk (r : Route) (root : DeclaredType) (visited : List String) : List Step × List String :=
  let visited := visited.insert root.name
  if r.goOn root then
    let above := follow r root.name root.interfaces visited
    (.visit root :: above.1, above.2)
  else ([.visit root], visited)

end Ancestry

end Metatype
