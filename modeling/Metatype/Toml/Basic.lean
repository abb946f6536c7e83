import Metatype.Numeral.Binary

/-!
# TOML values

TOML as data. The keys of a table are distinct and kept in the order in which they were written.

* `find?_put`: setting an entry changes what is found under its key, and nothing else.
-/

namespace Metatype.Toml

open Numeral

/-- A TOML value. Dates and times are kept as text. -/
inductive Value
  | string (s : String)
  | integer (i : Int)
  | float (x : Binary)
  | boolean (b : Bool)
  | dateTime (text : String)
  | array (items : List Value)
  | table (entries : List (String × Value))
  deriving Repr, Inhabited

/-- The entry of a key. -/
def find? (entries : List (String × Value)) (key : String) : Option Value := entries.lookup key

/-- The entries with one of them set: replaced in place, or added after the others. -/
def put (entries : List (String × Value)) (key : String) (v : Value) : List (String × Value) :=
  match entries with
  | [] => [(key, v)]
  | (k, w) :: rest => if k = key then (key, v) :: rest else (k, w) :: put rest key v

theorem find?_put_self (entries : List (String × Value)) (key : String) (v : Value) :
    find? (put entries key v) key = some v := by
  induction entries with
  | nil => simp [put, find?]
  | cons e rest ih =>
    obtain ⟨k, w⟩ := e
    by_cases h : k = key
    · simp [put, h, find?]
    · have hne : (key == k) = false := by simpa using fun hk => h hk.symm
      simp only [put, h, if_false, find?, List.lookup_cons, hne]
      exact ih

theorem find?_put_of_ne {entries : List (String × Value)} {key other : String} {v : Value}
    (h : other ≠ key) : find? (put entries key v) other = find? entries other := by
  induction entries with
  | nil =>
    have hne : (other == key) = false := by simpa using h
    simp [put, find?, List.lookup_cons, hne]
  | cons e rest ih =>
    obtain ⟨k, w⟩ := e
    by_cases hk : k = key
    · have hne : (other == key) = false := by simpa using h
      simp [put, hk, find?, List.lookup_cons, hne]
    · simp only [put, hk, if_false, find?, List.lookup_cons]
      split
      · rfl
      · exact ih

/-- Setting an entry changes what is found under its key, and nothing else. -/
theorem find?_put (entries : List (String × Value)) (key other : String) (v : Value) :
    find? (put entries key v) other = if other = key then some v else find? entries other := by
  by_cases h : other = key
  · rw [if_pos h, h, find?_put_self]
  · rw [if_neg h, find?_put_of_ne h]

end Metatype.Toml
