import Metatype.Source

/-!
# Types that are collections

A class can stand for a collection in a return type if it is concrete, has a public constructor
without parameters and reaches one of the collection interfaces through its declared ancestors.
The search follows interfaces before the superclass, in depth, and looks at no name twice.

* `CollectionLike.search_nil`, `CollectionLike.search_cons`: the search, one ancestor at a time.
* `isCollectionLike`: the decision for a name.
-/

namespace Metatype

namespace CollectionLike

/-! ## Known names -/

/-- The interfaces that make a type a collection. -/
def family : List String :=
  ["java.util.Collection", "java.util.Set", "java.util.List", "java.util.Queue",
    "java.util.Stack", "java.util.Deque"]

/-- Platform collections, taken for such where the source does not know them. -/
def platform : List String :=
  ["java.util.ArrayList", "java.util.LinkedList", "java.util.HashSet", "java.util.LinkedHashSet",
    "java.util.TreeSet", "java.util.ArrayDeque", "java.util.PriorityQueue", "java.util.Vector",
    "java.util.Stack", "java.util.concurrent.CopyOnWriteArrayList"]

/-! ## Ancestors -/

/-- An ancestor as declared by a type. -/
inductive Ancestor
  | interface (name : String)
  | superclass (name : String)
  deriving DecidableEq, Repr

/-- The name of an ancestor. -/
def Ancestor.name : Ancestor → String
  | .interface name => name
  | .superclass name => name

/-- Whether an ancestor is an interface of the collection family. -/
def Ancestor.inFamily : Ancestor → Bool
  | .interface name => family.contains name
  | .superclass _ => false

/-- Whether the search goes on from a type found for an ancestor. A superclass needs a public
constructor. An interface is either an interface type or has a public constructor, not both. -/
def Ancestor.admits : Ancestor → DeclaredType → Bool
  | .interface _, t => t.isInterface ^^ t.hasPublicConstructor
  | .superclass _, t => t.hasPublicConstructor

/-- The declared ancestors of a type in the order of the search. -/
def ancestors (t : DeclaredType) : List Ancestor :=
  t.interfaces.map .interface ++ (t.superclass.map .superclass).toList

/-! ## The search -/

/-- The search, with the proof that no visited name is forgotten. -/
def searchAll (s : Source) (todo : List Ancestor) (visited : List String) :
    { r : Bool × List String // visited ⊆ r.2 } :=
  match todo with
  | [] => ⟨(false, visited), fun _ h => h⟩
  | a :: rest =>
    if a.inFamily then ⟨(true, visited), fun _ h => h⟩
    else if _hv : a.name ∈ visited then searchAll s rest visited
    else
      match _hf : s.lookup a.name with
      | .found t =>
        if a.admits t then
          let below := searchAll s (ancestors t) (a.name :: visited)
          if below.1.1 then ⟨below.1, fun _ h => below.2 (List.mem_cons_of_mem _ h)⟩
          else
            let after := searchAll s rest below.1.2
            ⟨after.1, fun _ h => after.2 (below.2 (List.mem_cons_of_mem _ h))⟩
        else
          let after := searchAll s rest (a.name :: visited)
          ⟨after.1, fun _ h => after.2 (List.mem_cons_of_mem _ h)⟩
      | _ =>
        let after := searchAll s rest (a.name :: visited)
        ⟨after.1, fun _ h => after.2 (List.mem_cons_of_mem _ h)⟩
termination_by (s.unvisited visited, todo.length)
decreasing_by
  · exact Prod.Lex.right _ (by simp)
  · exact Prod.Lex.left _ _ (s.unvisited_lt _hf _hv)
  · exact Prod.Lex.left _ _
      (Nat.lt_of_le_of_lt (s.unvisited_mono below.2) (s.unvisited_lt _hf _hv))
  · exact Prod.Lex.left _ _ (s.unvisited_lt _hf _hv)
  · have hle := s.unvisited_mono (List.subset_cons_self a.name visited)
    rcases Nat.lt_or_eq_of_le hle with hlt | heq
    · exact Prod.Lex.left _ _ hlt
    · rw [heq]
      exact Prod.Lex.right _ (by simp)

/-- Whether one of the ancestors leads to the collection family, and the names visited by then. -/
def search (s : Source) (todo : List Ancestor) (visited : List String) : Bool × List String :=
  (searchAll s todo visited).1

theorem search_nil (s : Source) (visited : List String) : search s [] visited = (false, visited) := by
  rw [search, searchAll]

theorem search_cons (s : Source) (a : Ancestor) (rest : List Ancestor) (visited : List String) :
    search s (a :: rest) visited =
      if a.inFamily then (true, visited)
      else if a.name ∈ visited then search s rest visited
      else
        match s.lookup a.name with
        | .found t =>
          if a.admits t then
            let below := search s (ancestors t) (a.name :: visited)
            if below.1 then below else search s rest below.2
          else search s rest (a.name :: visited)
        | _ => search s rest (a.name :: visited) := by
  rw [search, searchAll]
  split
  · rfl
  · split
    · rfl
    · simp only [search]
      split
      · rename_i t hf
        rw [hf]
        dsimp only
        split
        · split <;> rename_i hb <;> simp only [hb, if_true, if_false, Bool.false_eq_true]
        · rfl
      · rename_i hf
        split
        · rename_i t hf'
          exact absurd hf' (hf t)
        · rfl

theorem visited_subset_search (s : Source) (todo : List Ancestor) (visited : List String) :
    visited ⊆ (search s todo visited).2 :=
  (searchAll s todo visited).2

end CollectionLike

/-- Whether a name is that of a collection. Of a type the source does not know, its name decides;
where the source fails, the name is none. -/
def isCollectionLike (s : Source) (name : String) : Bool :=
  match s.lookup name with
  | .found t =>
    !t.isAbstract && t.hasPublicConstructor &&
      (CollectionLike.search s (CollectionLike.ancestors t) [name]).1
  | .unknown => CollectionLike.platform.contains name
  | .failed _ => false

end Metatype
