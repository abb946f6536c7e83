import Metatype.Report

/-!
# Computations that only add to a report

A computation in `Reporting` could read what was reported before it, or take it back. One that
`Yields` a value and some problems does neither: it gives that value and adds those problems after
whatever report it is started with.

* `Reporting.Yields.value_eq`, `Reporting.Yields.added_eq`: the value and the problems are determined.
* `Reporting.Yields.bind`: the problems of two computations follow one another.
* `Reporting.yields_foldlM`: so do those of the rounds of a loop.
* `Reporting.Ensures`: a postcondition on the value of such a computation.
-/

namespace Metatype.Reporting

variable {α β σ : Type}

/-! ## Value and problems -/

/-- The computation gives the value and adds the problems, whatever was reported before. -/
def Yields (x : Reporting α) (a : α) (added : List Diagnostic) : Prop :=
  ∀ before : Report, x.run before = (a, ⟨before.items ++ added⟩)

/-- The value of a computation that starts with an empty report. -/
def value (x : Reporting α) : α := (x.run {}).1

/-- The problems that a computation adds to an empty report. -/
def added (x : Reporting α) : List Diagnostic := (x.run {}).2.items

namespace Yields

variable {x : Reporting α} {a b : α} {l m : List Diagnostic}

theorem value_eq (h : Yields x a l) : value x = a := by
  rw [value, h]

theorem added_eq (h : Yields x a l) : added x = l := by
  rw [added, h]
  rfl

theorem self (h : Yields x a l) : Yields x (value x) (added x) := by
  rw [h.value_eq, h.added_eq]
  exact h

theorem bind {y : α → Reporting β} {c : β} (hx : Yields x a l) (hy : Yields (y a) c m) :
    Yields (x >>= y) c (l ++ m) := by
  intro before
  rw [StateT.run_bind, hx before]
  show (y a).run ⟨before.items ++ l⟩ = _
  rw [hy, List.append_assoc]

end Yields

/-! ## The parts of a computation -/

theorem yields_pure (a : α) : Yields (pure a) a [] := by
  intro before
  rw [List.append_nil]
  rfl

theorem yields_error (code : Code) (message : String) :
    Yields (error code message) () [⟨code, .error, message, []⟩] := fun _ => rfl

theorem yields_warning (code : Code) (message : String) :
    Yields (warning code message) () [⟨code, .warning, message, []⟩] := fun _ => rfl

theorem yields_failure (code : Code) (cause : Failure) (message : String) :
    Yields (failure code cause message) () [⟨code, .error, message, [cause.message]⟩] :=
  fun _ => rfl

/-- What is done with the value adds no problem. -/
theorem Yields.bind_pure {x : Reporting α} {a : α} {b : β} {l : List Diagnostic}
    {y : α → Reporting β} (hx : Yields x a l) (hy : y a = pure b) : Yields (x >>= y) b l := by
  have hrest : Yields (y a) b [] := by
    rw [hy]
    exact yields_pure b
  have hbind := hx.bind hrest
  rwa [List.append_nil] at hbind

theorem Yields.map {x : Reporting α} {a : α} {l : List Diagnostic} (h : Yields x a l)
    (f : α → β) : Yields (x >>= fun b => pure (f b)) (f a) l := h.bind_pure rfl

/-- A problem is reported, and a value given. -/
theorem Yields.then_pure {x : Reporting Unit} {l : List Diagnostic} (h : Yields x () l) (a : α) :
    Yields (x >>= fun _ => pure a) a l := h.map fun _ => a

/-! ## Lists -/

theorem filter_code_eq_nil {items : List Diagnostic} {code : Code}
    (h : ∀ d ∈ items, d.code ≠ code) : items.filter (·.code = code) = [] :=
  List.filter_eq_nil_iff.2 fun d hd hcode => h d hd (of_decide_eq_true hcode)

/-- Where a code does not occur, nothing is left out with it. -/
theorem filter_code_ne {items : List Diagnostic} {code : Code}
    (h : items.filter (·.code = code) = []) : items.filter (·.code ≠ code) = items := by
  refine List.filter_eq_self.2 fun d hd => decide_eq_true fun hcode => ?_
  exact List.filter_eq_nil_iff.1 h d hd (decide_eq_true hcode)

theorem flatMap_ite (p : α → Bool) (f : α → List β) (items : List α) :
    (items.flatMap fun a => if p a then f a else []) = (items.filter p).flatMap f := by
  induction items with
  | nil => rfl
  | cons a rest ih =>
    rw [List.flatMap_cons, ih]
    by_cases h : p a = true
    · rw [if_pos h, List.filter_cons_of_pos h, List.flatMap_cons]
    · rw [if_neg h, List.filter_cons_of_neg h, List.nil_append]

theorem filterMap_cons_toList (f : α → Option β) (a : α) (rest : List α) :
    (a :: rest).filterMap f = (f a).toList ++ rest.filterMap f := by
  rw [List.filterMap_cons]
  cases f a <;> rfl

/-- A list ends in the item that is changed. -/
theorem modify_last (front : List α) (a : α) (f : α → α) :
    (front ++ [a]).modify front.length f = front ++ [f a] := by
  simp [List.modify_eq_take_drop]

/-! ## Loops -/

/-- A loop whose body keeps an invariant, under which it reports problems that depend on the item
alone. -/
theorem yields_foldlM_of_invariant {f : σ → α → Reporting σ} {g : σ → α → σ}
    {notes : α → List Diagnostic} (I : σ → Prop)
    (hf : ∀ s a, I s → Yields (f s a) (g s a) (notes a)) (hg : ∀ s a, I s → I (g s a))
    (items : List α) {s : σ} (hs : I s) :
    Yields (items.foldlM f s) (items.foldl g s) (items.flatMap notes) := by
  induction items generalizing s with
  | nil => exact yields_pure s
  | cons a rest ih =>
    rw [List.foldlM_cons, List.flatMap_cons, List.foldl_cons]
    exact (hf s a hs).bind (ih (hg s a hs))

theorem yields_foldlM {f : σ → α → Reporting σ} {g : σ → α → σ} {notes : α → List Diagnostic}
    (hf : ∀ s a, Yields (f s a) (g s a) (notes a)) (items : List α) (s : σ) :
    Yields (items.foldlM f s) (items.foldl g s) (items.flatMap notes) :=
  yields_foldlM_of_invariant (fun _ => True) (fun s a _ => hf s a) (fun _ _ _ => trivial) items
    trivial

/-- Computations that are made one after another. -/
theorem yields_mapM {f : α → Reporting β} {g : α → β} {notes : α → List Diagnostic}
    (hf : ∀ a, Yields (f a) (g a) (notes a)) (items : List α) :
    Yields (items.mapM f) (items.map g) (items.flatMap notes) := by
  induction items with
  | nil => exact yields_pure []
  | cons a rest ih =>
    rw [List.mapM_cons, List.map_cons, List.flatMap_cons]
    exact (hf a).bind (ih.map (g a :: ·))

/-! ## Postconditions -/

/-- The computation only adds to the report, and its value satisfies `P`. -/
def Ensures (x : Reporting α) (P : α → Prop) : Prop := ∃ a added, Yields x a added ∧ P a

theorem Yields.ensures {x : Reporting α} {a : α} {l : List Diagnostic} {P : α → Prop}
    (h : Yields x a l) (ha : P a) : Ensures x P := ⟨a, l, h, ha⟩

theorem ensures_pure {P : α → Prop} {a : α} (h : P a) : Ensures (pure a) P :=
  (yields_pure a).ensures h

namespace Ensures

theorem bind {x : Reporting α} {y : α → Reporting β} {P : α → Prop} {Q : β → Prop}
    (hx : Ensures x P) (hy : ∀ a, P a → Ensures (y a) Q) : Ensures (x >>= y) Q := by
  obtain ⟨a, l, hx, ha⟩ := hx
  obtain ⟨b, m, hy, hb⟩ := hy a ha
  exact (hx.bind hy).ensures hb

theorem mono {x : Reporting α} {P Q : α → Prop} (hx : Ensures x P) (h : ∀ a, P a → Q a) :
    Ensures x Q := by
  obtain ⟨a, l, hx, ha⟩ := hx
  exact hx.ensures (h a ha)

end Ensures

/-- What every round of a loop preserves holds in the end. -/
theorem ensures_foldlM {f : σ → α → Reporting σ} (I : σ → Prop) (items : List α) {s : σ}
    (hs : I s) (hf : ∀ s a, I s → Ensures (f s a) I) : Ensures (items.foldlM f s) I := by
  induction items generalizing s with
  | nil => exact ensures_pure hs
  | cons a rest ih =>
    rw [List.foldlM_cons]
    exact (hf s a hs).bind fun s' hs' => ih hs'

end Metatype.Reporting
