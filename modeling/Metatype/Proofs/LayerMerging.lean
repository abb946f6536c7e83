import Mathlib.Data.List.Basic
import Metatype.Settings.Layers

/-!
# Merging layers

A setting stands at the end of a way of keys. Where layers have tables on the way and other values
at its end, the merged layers have the value there that was set last: what they set beside the way
makes no difference.

* `Toml.Has`: what stands at the end of a way.
* `Toml.Sets.put`: a change of one entry of a table.
* `Toml.sets_merge`, `Toml.sets_setBelow`: merging a value, at the top and at the end of some steps.
* `Toml.has_layers`: what stands in merged layers.
-/

namespace Metatype.Toml

/-! ## What a layer sets -/

/-- The values at the end of a way of keys, in the order in which they are written. Keys may be in
any case, so that there can be several. -/
def Value.along : List String → Value → List Value
  | [], v => [v]
  | key :: way, v =>
    v.entries.flatMap fun e => if Text.lowerCase e.1 = key then e.2.along way else []

/-- The values at the end of a way, of a value that is set at the end of some steps. -/
def Value.given (v : Value) : List Step → List String → List Value
  | [], way => v.along way
  | .entry name :: steps, key :: way => if Text.lowerCase name = key then v.given steps way else []
  | _, _ => []

def Value.isTable : Value → Bool
  | .table _ => true
  | _ => false

/-- The values on the way are tables, and those at its end are none and have a property. -/
def Value.Fits (P : Value → Prop) : List String → Value → Prop
  | [], v => v.isTable = false ∧ P v
  | key :: way, v =>
    v.isTable = true ∧ ∀ e ∈ v.entries, Text.lowerCase e.1 = key → e.2.Fits P way

/-- The same for a value that is set at the end of some steps. These may leave the way, but not go
on beyond its end, nor to the items of what stands on it. -/
def Value.FitsBelow (P : Value → Prop) (v : Value) : List Step → List String → Prop
  | [], way => v.Fits P way
  | .entry name :: steps, key :: way => Text.lowerCase name = key → v.FitsBelow P steps way
  | _, _ => False

instance Value.decidableFits {P : Value → Prop} [DecidablePred P] :
    ∀ way v, Decidable (Value.Fits P way v)
  | [], v => inferInstanceAs (Decidable (v.isTable = false ∧ P v))
  | key :: way, v =>
    have (e : String × Value) : Decidable (e.2.Fits P way) := decidableFits way e.2
    inferInstanceAs (Decidable
      (v.isTable = true ∧ ∀ e ∈ v.entries, Text.lowerCase e.1 = key → e.2.Fits P way))

instance Value.decidableFitsBelow {P : Value → Prop} [DecidablePred P] (v : Value) :
    ∀ steps way, Decidable (v.FitsBelow P steps way)
  | [], way => inferInstanceAs (Decidable (v.Fits P way))
  | .entry name :: steps, key :: way =>
    have : Decidable (v.FitsBelow P steps way) := decidableFitsBelow v steps way
    inferInstanceAs (Decidable (Text.lowerCase name = key → v.FitsBelow P steps way))
  | .entry _ :: _, [] => isFalse id
  | .item _ :: _, [] => isFalse id
  | .item _ :: _, _ :: _ => isFalse id

theorem Value.Fits.of_mem_along {P : Value → Prop} {way : List String} {v w : Value}
    (h : v.Fits P way) (hw : w ∈ v.along way) : P w := by
  induction way generalizing v with
  | nil =>
    rw [List.mem_singleton.1 hw]
    exact h.2
  | cons key way ih =>
    obtain ⟨e, he, hbelow⟩ := List.mem_flatMap.1 hw
    split at hbelow
    · rename_i hkey
      exact ih (h.2 e he hkey) hbelow
    · cases hbelow

theorem Value.FitsBelow.of_mem_given {P : Value → Prop} {steps : List Step} {way : List String}
    {v w : Value} (h : v.FitsBelow P steps way) (hw : w ∈ v.given steps way) : P w := by
  induction steps generalizing way with
  | nil => exact Fits.of_mem_along h hw
  | cons step steps ih =>
    match step, way with
    | .entry name, key :: way =>
      rw [given] at hw
      split at hw
      · rename_i hkey
        exact ih (h hkey) hw
      · cases hw
    | .entry _, [] => exact h.elim
    | .item _, [] => exact h.elim
    | .item _, _ :: _ => exact h.elim

/-! ## What stands at the end of a way -/

/-- What stands at the end of a way, if there are tables on it as far as it goes. -/
inductive Has : List String → Option Value → Option Value → Prop
  | here (o : Option Value) : Has [] o o
  | missing (key : String) (way : List String) : Has (key :: way) none none
  | entry {key : String} {way : List String} {entries : List (String × Value)} {o : Option Value}
      (h : Has way (find? entries key) o) : Has (key :: way) (some (.table entries)) o

theorem has_none (way : List String) : Has way none none := by
  cases way with
  | nil => exact .here none
  | cons key way => exact .missing key way

/-- A change of values sets some values at the end of a way: the last of them stands there
afterwards, and what has stood there if there are none. -/
def Sets (change : Value → Value) (way : List String) (values : List Value) : Prop :=
  ∀ under o, Has way under o → Has way (some (change (under.getD .nothing))) (values.getLast?.or o)

theorem has_entries {key : String} {way : List String} {under o : Option Value}
    (h : Has (key :: way) under o) :
    ∃ entries, under.getD .nothing = .table entries ∧ Has way (find? entries key) o := by
  cases h with
  | missing => exact ⟨[], rfl, has_none way⟩
  | entry h => exact ⟨_, rfl, h⟩

/-- A change of one entry sets what it sets below the entry, if the way goes on there. -/
theorem Sets.put {change : Value → Value} {name key : String} {way : List String}
    {values : List Value} (h : name = key → Sets change way values)
    {entries : List (String × Value)} {o : Option Value} (hhas : Has way (find? entries key) o) :
    Has way (find? (put entries name (change ((find? entries name).getD .nothing))) key)
      ((if name = key then values else []).getLast?.or o) := by
  by_cases hname : name = key
  · subst hname
    rw [find?_put_self, if_pos rfl]
    exact h rfl _ _ hhas
  · rw [find?_put_of_ne (Ne.symm hname), if_neg hname]
    exact hhas

/-! ## Merging -/

variable {P : Value → Prop}

theorem merge_of_not_table {v : Value} (h : v.isTable = false) (under : Value) :
    merge under v = v := by
  rw [merge]
  · rintro rfl
    cases h
  · rintro e rest rfl
    cases h

theorem has_mergeEntries {key : String} {way : List String} {above : List (String × Value)}
    (h : ∀ e ∈ above, Text.lowerCase e.1 = key → Sets (merge · e.2) way (e.2.along way))
    {under : List (String × Value)} {o : Option Value} (hhas : Has way (find? under key) o) :
    Has way (find? (mergeEntries under above) key)
      ((above.flatMap fun e => if Text.lowerCase e.1 = key then e.2.along way else []).getLast?.or
        o) := by
  induction above generalizing under o with
  | nil =>
    rw [mergeEntries]
    exact hhas
  | cons e rest ih =>
    have hfirst := Sets.put (h e List.mem_cons_self) hhas
    have hrest := ih (fun e' he' => h e' (List.mem_cons_of_mem _ he')) hfirst
    rw [mergeEntries, List.flatMap_cons, List.getLast?_append, Option.or_assoc]
    exact hrest

/-- Merging sets what the upper value has at the end of the way. -/
theorem sets_merge {way : List String} {v : Value} (h : v.Fits P way) :
    Sets (merge · v) way (v.along way) := by
  induction way generalizing v with
  | nil =>
    intro under o _
    dsimp only
    rw [merge_of_not_table h.1]
    exact .here _
  | cons key way ih =>
    intro under o hhas
    obtain ⟨entries, hunder, hbelow⟩ := has_entries hhas
    have hmerged := has_mergeEntries (fun e he hkey => ih (h.2 e he hkey)) hbelow
    dsimp only
    rw [hunder]
    match v, h.1 with
    | .table [], _ =>
      rw [Value.entries, mergeEntries] at hmerged
      rw [merge]
      exact .entry hmerged
    | .table (e :: rest), _ =>
      rw [merge]
      exact .entry hmerged

theorem sets_setBelow {steps : List Step} {way : List String} {v : Value}
    (h : v.FitsBelow P steps way) : Sets (setBelow v steps) way (v.given steps way) := by
  induction steps generalizing way with
  | nil => exact sets_merge h
  | cons step steps ih =>
    match step, way with
    | .entry name, key :: way =>
      intro under o hhas
      obtain ⟨entries, hunder, hbelow⟩ := has_entries hhas
      rw [hunder]
      exact .entry (Sets.put (fun hkey => ih (h hkey)) hbelow)
    | .entry _, [] => exact h.elim
    | .item _, [] => exact h.elim
    | .item _, _ :: _ => exact h.elim

/-! ## Layers -/

/-- The steps of a path. -/
def pathSteps (path : String) : List Step := .entry (splitPath path).1 :: (splitPath path).2

/-- The values that a layer sets at the end of a way. -/
def layerGiven (way : List String) (layer : List (String × Value)) : List Value :=
  layer.flatMap fun e => e.2.given (pathSteps e.1) way

/-- A layer has tables on the way, and other values with a property at its end. -/
def LayerFits (P : Value → Prop) (way : List String) (layer : List (String × Value)) : Prop :=
  ∀ e ∈ layer, e.2.FitsBelow P (pathSteps e.1) way

instance {P : Value → Prop} [DecidablePred P] {way : List String}
    {layer : List (String × Value)} : Decidable (LayerFits P way layer) :=
  inferInstanceAs (Decidable (∀ e ∈ layer, e.2.FitsBelow P (pathSteps e.1) way))

theorem has_setPath {way : List String} {e : String × Value}
    (h : e.2.FitsBelow P (pathSteps e.1) way) {under : List (String × Value)} {o : Option Value}
    (hhas : Has way (some (.table under)) o) :
    Has way (some (.table (setPath under e.1 e.2)))
      ((e.2.given (pathSteps e.1) way).getLast?.or o) :=
  sets_setBelow h _ _ hhas

theorem has_overlay {way : List String} {layer under : List (String × Value)} {o : Option Value}
    (h : LayerFits P way layer) (hhas : Has way (some (.table under)) o) :
    Has way (some (.table (overlay under layer))) ((layerGiven way layer).getLast?.or o) := by
  induction layer generalizing under o with
  | nil => exact hhas
  | cons e rest ih =>
    have hfirst := has_setPath (h e List.mem_cons_self) hhas
    have hrest := ih (fun e' he' => h e' (List.mem_cons_of_mem _ he')) hfirst
    rw [layerGiven, List.flatMap_cons, List.getLast?_append, Option.or_assoc]
    exact hrest

theorem has_foldl_overlay {way : List String} {layers : List (List (String × Value))}
    (h : ∀ layer ∈ layers, LayerFits P way layer) {under : List (String × Value)}
    {o : Option Value} (hhas : Has way (some (.table under)) o) :
    Has way (some (.table (layers.foldl overlay under)))
      ((layers.flatMap (layerGiven way)).getLast?.or o) := by
  induction layers generalizing under o with
  | nil => exact hhas
  | cons layer rest ih =>
    have hfirst := has_overlay (h layer List.mem_cons_self) hhas
    have hrest := ih (fun l hl => h l (List.mem_cons_of_mem _ hl)) hfirst
    rw [List.flatMap_cons, List.getLast?_append, Option.or_assoc]
    exact hrest

/-- The value at the end of a way that is set by the last layer that sets one. -/
def lastGiven? (way : List String) (layers : List (List (String × Value))) : Option Value :=
  layers.reverse.findSome? fun layer => (layerGiven way layer).getLast?

/-- It is what stands there in the merged layers. -/
theorem has_layers {key : String} {way : List String} {layers : List (List (String × Value))}
    (h : ∀ layer ∈ layers, LayerFits P (key :: way) layer) :
    Has (key :: way) (some (.table (layers.foldl overlay [])))
      (lastGiven? (key :: way) layers) := by
  have hempty : Has (key :: way) (some (.table [])) none := .entry (has_none way)
  have hmerged := has_foldl_overlay h hempty
  rw [Option.or_none, List.getLast?_flatMap] at hmerged
  exact hmerged

theorem of_lastGiven? {way : List String} {layers : List (List (String × Value))} {v : Value}
    (h : ∀ layer ∈ layers, LayerFits P way layer) (hv : lastGiven? way layers = some v) : P v := by
  obtain ⟨layer, hlayer, hlast⟩ := List.exists_of_findSome?_eq_some hv
  obtain ⟨e, he, hgiven⟩ := List.mem_flatMap.1 (List.mem_of_getLast? hlast)
  exact (h layer (List.mem_reverse.1 hlayer) e he).of_mem_given hgiven

end Metatype.Toml
