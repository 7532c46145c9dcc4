import Mathlib.Data.List.Induction

/-! Runs of a state machine given by a step function: an invariant that every
step keeps holds after every run, a guarded one for as long as every step meets
its guard, and `Since` says that something happened and was not undone later.
A step relation has runs too, with the labels of the steps as their history. -/
namespace OpenSovd.Support.Runs

variable {σ α : Type} {step : σ → α → σ} {init : σ}

theorem foldl_append_singleton (ops : List α) (op : α) :
    (ops ++ [op]).foldl step init = step (ops.foldl step init) op := by
  simp

theorem invariant_of_run {I : σ → Prop} (base : I init) (keeps : ∀ s op, I s → I (step s op))
    (ops : List α) : I (ops.foldl step init) := by
  induction ops using List.reverseRecOn with
  | nil => exact base
  | append_singleton ops op ih =>
    rw [foldl_append_singleton]
    exact keeps _ op ih

/-- Every step of the run meets the guard in the state it starts from. -/
def Guarded (step : σ → α → σ) (init : σ) (guard : σ → α → Prop) (ops : List α) : Prop :=
  ∀ done op rest, ops = done ++ op :: rest → guard (done.foldl step init) op

/-- The property holds in every state the run passes through. -/
def Throughout (step : σ → α → σ) (init : σ) (I : σ → Prop) (ops : List α) : Prop :=
  ∀ done rest, ops = done ++ rest → I (done.foldl step init)

theorem guarded_before_last {guard : σ → α → Prop} {ops : List α} {op : α}
    (guarded : Guarded step init guard (ops ++ [op])) : Guarded step init guard ops :=
  fun done next rest shape => guarded done next (rest ++ [op]) (by simp [shape])

theorem guarded_invariant {I : σ → Prop} {guard : σ → α → Prop} (base : I init)
    (keeps : ∀ s op, I s → guard s op → I (step s op)) {ops : List α}
    (guarded : Guarded step init guard ops) : I (ops.foldl step init) := by
  induction ops using List.reverseRecOn with
  | nil => exact base
  | append_singleton ops op ih =>
    rw [foldl_append_singleton]
    exact keeps _ op (ih (guarded_before_last guarded)) (guarded ops op [] rfl)

theorem guarded_throughout {I : σ → Prop} {guard : σ → α → Prop} (base : I init)
    (keeps : ∀ s op, I s → guard s op → I (step s op)) {ops : List α}
    (guarded : Guarded step init guard ops) : Throughout step init I ops := by
  intro done rest shape
  refine guarded_invariant base keeps fun early op late split => ?_
  exact guarded early op (late ++ rest) (by simp [shape, split])

/-- Some step of the run met `start`, and no later step met `stop`. -/
def Since (step : σ → α → σ) (init : σ) (start stop : σ → α → Prop) (ops : List α) : Prop :=
  ∃ before op later, ops = before ++ op :: later ∧ start (before.foldl step init) op ∧
    ∀ early next late, later = early ++ next :: late →
      ¬ stop ((before ++ op :: early).foldl step init) next

/-- One more step either starts the interval or must not stop it. -/
theorem since_append_singleton {start stop : σ → α → Prop} (ops : List α) (last : α) :
    Since step init start stop (ops ++ [last]) ↔
      start (ops.foldl step init) last ∨
        (Since step init start stop ops ∧ ¬ stop (ops.foldl step init) last) := by
  constructor
  · rintro ⟨before, op, later, shape, started, going⟩
    rcases List.eq_nil_or_concat later with rfl | ⟨rest, final, rfl⟩
    · obtain ⟨rfl, same⟩ := List.append_inj' shape rfl
      cases same
      exact Or.inl started
    · rw [List.concat_eq_append, ← List.cons_append, ← List.append_assoc] at shape
      obtain ⟨rfl, same⟩ := List.append_inj' shape rfl
      cases same
      refine Or.inr ⟨⟨before, op, rest, rfl, started, ?_⟩, going rest last [] (by simp)⟩
      intro early next late split
      exact going early next (late ++ [last]) (by simp [split])
  · rintro (started | ⟨⟨before, op, rest, rfl, started, going⟩, open_⟩)
    · exact ⟨ops, last, [], rfl, started, fun early next late split => by simp at split⟩
    · refine ⟨before, op, rest ++ [last], by simp, started, ?_⟩
      intro early next late split
      rcases List.eq_nil_or_concat late with rfl | ⟨front, final, rfl⟩
      · obtain ⟨rfl, same⟩ := List.append_inj' split rfl
        cases same
        exact open_
      · rw [List.concat_eq_append, ← List.cons_append, ← List.append_assoc] at split
        exact going early next front (List.append_inj' split rfl).1

/-! ### Runs of a labelled step relation -/

/-- A run with the labels of its steps, in order. -/
inductive Labelled (step : σ → α → σ → Prop) (init : σ) : List α → σ → Prop where
  | start : Labelled step init [] init
  | snoc {past s a t} (run : Labelled step init past s) (last : step s a t) :
      Labelled step init (past ++ [a]) t

/-- What every step keeps, with one more label in the history, holds of every run. -/
theorem Labelled.invariant {step : σ → α → σ → Prop} {I : List α → σ → Prop} (base : I [] init)
    (keeps : ∀ past s a t, I past s → step s a t → I (past ++ [a]) t) {past : List α} {t : σ}
    (run : Labelled step init past t) : I past t := by
  induction run with
  | start => exact base
  | snoc _ last ih => exact keeps _ _ _ _ ih last

end OpenSovd.Support.Runs
