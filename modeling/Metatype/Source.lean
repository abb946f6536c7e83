import Metatype.Declaration

/-!
# Sources of types

A source answers a type name with a declared type, with the news that it knows no such type, or
with a failure. It may fail on any name, but it finds a type only under finitely many, which it
lists: this is what makes every search through declared ancestors end.

* `Source.ofTable`: the source that answers by a finite table.
* `Source.unvisited_lt`: visiting a name under which a type is found leaves fewer to visit.
-/

namespace Metatype

/-! ## Answers -/

/-- Why a source cannot answer. -/
inductive Failure
  | malformed (name reason : String)
  | unavailable (name reason : String)
  deriving DecidableEq, Repr

/-- The text of a failure. -/
def Failure.message : Failure → String
  | .malformed name reason => "Malformed type descriptor for " ++ name ++ ": " ++ reason
  | .unavailable name reason =>
    "Type source unavailable while resolving " ++ name ++ ": " ++ reason

/-- What a source answers to a name. -/
inductive Lookup
  | found (t : DeclaredType)
  | unknown
  | failed (f : Failure)
  deriving Repr

/-! ## Sources -/

/-- A source of declared types, with the names under which it finds any. -/
structure Source where
  lookup : String → Lookup
  names : List String
  mem_names : ∀ {name t}, lookup name = .found t → name ∈ names

namespace Source

/-- The source that knows no type. -/
def empty : Source := ⟨fun _ => .unknown, [], by simp⟩

instance : Inhabited Source := ⟨empty⟩

/-- The answer that a table gives to a name: its first entry for the name. -/
def answer (table : List (String × Lookup)) (name : String) : Lookup :=
  (table.lookup name).getD .unknown

theorem mem_of_answer_found {table : List (String × Lookup)} {name : String} {t : DeclaredType}
    (h : answer table name = .found t) : name ∈ table.map (·.1) := by
  induction table with
  | nil => simp [answer] at h
  | cons e rest ih =>
    obtain ⟨k, v⟩ := e
    by_cases hk : name = k
    · simp [hk]
    · have hne : (name == k) = false := by simpa using hk
      simp only [answer, List.lookup_cons, hne] at h
      exact List.mem_cons_of_mem _ (ih h)

/-- The source that answers by a table. -/
def ofTable (table : List (String × Lookup)) : Source :=
  ⟨answer table, table.map (·.1), mem_of_answer_found⟩

/-! ## Names still to visit -/

/-- How many of the listed names are not among the visited ones. -/
def unvisited (s : Source) (visited : List String) : Nat :=
  s.names.countP fun name => !visited.contains name

theorem unvisited_mono (s : Source) {a b : List String} (h : a ⊆ b) :
    s.unvisited b ≤ s.unvisited a := by
  refine List.countP_mono_left fun name _ hb => ?_
  simp only [Bool.not_eq_true', List.contains_eq_mem, decide_eq_false_iff_not] at hb ⊢
  exact fun ha => hb (h ha)

theorem unvisited_lt (s : Source) {visited : List String} {name : String} {t : DeclaredType}
    (hf : s.lookup name = .found t) (hv : name ∉ visited) :
    s.unvisited (name :: visited) < s.unvisited visited := by
  have hmem := s.mem_names hf
  obtain ⟨before, after, hsplit⟩ := List.append_of_mem hmem
  have hmono : ∀ l : List String,
      l.countP (fun n => !(name :: visited).contains n) ≤ l.countP (fun n => !visited.contains n) :=
    fun l => List.countP_mono_left fun n _ h => by
      simp only [Bool.not_eq_true', List.contains_eq_mem, decide_eq_false_iff_not,
        List.mem_cons, not_or] at h ⊢
      exact h.2
  have h1 := hmono before
  have h2 := hmono after
  unfold unvisited
  rw [hsplit]
  simp only [List.countP_append, List.countP_cons]
  have hin : (!(name :: visited).contains name) = false := by simp
  have hout : (!visited.contains name) = true := by simpa using hv
  rw [hin, hout]
  simp only [Bool.false_eq_true, if_false, if_true]
  omega

end Source

end Metatype
