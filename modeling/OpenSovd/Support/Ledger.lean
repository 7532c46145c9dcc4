import Mathlib.Data.List.Count
import Mathlib.Data.List.Nodup
import Mathlib.Data.List.Pairwise
import Mathlib.Data.List.Perm.Basic

/-! Items booked under stages. A step may book new items, or move items from
one stage to another; either way every item stays booked under exactly one stage
and once, whatever the order of the steps. -/
namespace OpenSovd.Support.Ledger

variable {ι σ : Type} {stages : List σ} {book book' : σ → List ι} {items : List ι}

/-- The stages together hold the items, each as often as the list does. -/
def Accounts (stages : List σ) (book : σ → List ι) (items : List ι) : Prop :=
  (stages.flatMap book).Perm items

/-- New items are booked under one stage. -/
structure Enters (book book' : σ → List ι) (entered : List ι) (stage : σ) : Prop where
  came : (book' stage).Perm (book stage ++ entered)
  rest : ∀ other, other ≠ stage → book' other = book other

/-- Items leave one stage for another. -/
structure Moves (book book' : σ → List ι) (moved : List ι) (source target : σ) : Prop where
  apart : source ≠ target
  left : (book source).Perm (moved ++ book' source)
  came : (book' target).Perm (book target ++ moved)
  rest : ∀ other, other ≠ source → other ≠ target → book' other = book other

theorem mem_items_iff (accounts : Accounts stages book items) (complete : ∀ stage, stage ∈ stages)
    {item : ι} : item ∈ items ↔ ∃ stage, item ∈ book stage := by
  rw [← accounts.mem_iff, List.mem_flatMap]
  exact exists_congr fun stage => and_iff_right (complete stage)

theorem nodup_stage (accounts : Accounts stages book items) (complete : ∀ stage, stage ∈ stages)
    (once : items.Nodup) (stage : σ) : (book stage).Nodup :=
  (List.nodup_flatMap.mp (accounts.nodup_iff.mpr once)).1 stage (complete stage)

/-- Every item is in exactly one stage. -/
theorem existsUnique_stage (accounts : Accounts stages book items)
    (complete : ∀ stage, stage ∈ stages) (once : items.Nodup) {item : ι} (member : item ∈ items) :
    ∃! stage, item ∈ book stage := by
  obtain ⟨stage, booked⟩ := (mem_items_iff accounts complete).mp member
  refine ⟨stage, booked, fun other booked' => ?_⟩
  have apart := (List.nodup_flatMap.mp (accounts.nodup_iff.mpr once)).2
  by_contra different
  have symmetric : Std.Symm (Function.onFun List.Disjoint book) := ⟨fun _ _ => List.disjoint_symm⟩
  have disjoint : (book other).Disjoint (book stage) :=
    apart.forall (complete other) (complete stage) different
  exact disjoint booked' booked

/-! ### Steps on the books -/

section Counts
variable [DecidableEq ι] [DecidableEq σ]

/-- What an entry adds under one of the stages listed, and nowhere else. -/
theorem count_of_enters {entered : List ι} {stage : σ} (enters : Enters book book' entered stage)
    (stages : List σ) (distinct : stages.Nodup) (item : ι) :
    (stages.flatMap book').count item =
      (stages.flatMap book).count item + if stage ∈ stages then entered.count item else 0 := by
  induction stages with
  | nil => rfl
  | cons first rest ih =>
    obtain ⟨fresh, distinct⟩ := List.nodup_cons.mp distinct
    have step := ih distinct
    rw [List.flatMap_cons, List.flatMap_cons, List.count_append, List.count_append, step]
    by_cases here : first = stage
    · subst here
      have came := enters.came.count_eq item
      rw [List.count_append] at came
      simp only [fresh, if_false, List.mem_cons_self, if_true]
      omega
    · rw [enters.rest first here]
      simp only [List.mem_cons, Ne.symm here, false_or]
      omega

/-- What is missing at the source is there at the target. -/
theorem count_of_moves {moved : List ι} {source target : σ}
    (moves : Moves book book' moved source target) (stages : List σ) (distinct : stages.Nodup)
    (item : ι) :
    (stages.flatMap book').count item + (if source ∈ stages then moved.count item else 0) =
      (stages.flatMap book).count item + if target ∈ stages then moved.count item else 0 := by
  induction stages with
  | nil => rfl
  | cons first rest ih =>
    obtain ⟨fresh, distinct⟩ := List.nodup_cons.mp distinct
    have step := ih distinct
    rw [List.flatMap_cons, List.flatMap_cons, List.count_append, List.count_append]
    by_cases atSource : first = source
    · subst atSource
      have left := moves.left.count_eq item
      rw [List.count_append] at left
      simp only [fresh, if_false, List.mem_cons, true_or, if_true, moves.apart.symm, false_or] at step ⊢
      omega
    · by_cases atTarget : first = target
      · subst atTarget
        have came := moves.came.count_eq item
        rw [List.count_append] at came
        simp only [fresh, if_false, List.mem_cons, true_or, if_true, moves.apart, false_or] at step ⊢
        omega
      · rw [moves.rest first atSource atTarget]
        simp only [List.mem_cons, Ne.symm atSource, Ne.symm atTarget, false_or]
        omega

end Counts

theorem accounts_of_enters (accounts : Accounts stages book items) (complete : ∀ stage, stage ∈ stages)
    (distinct : stages.Nodup) {entered : List ι} {stage : σ}
    (enters : Enters book book' entered stage) : Accounts stages book' (items ++ entered) := by
  classical
  refine List.perm_iff_count.mpr fun item => ?_
  rw [count_of_enters enters stages distinct, if_pos (complete stage), accounts.count_eq,
    List.count_append]

theorem accounts_of_moves (accounts : Accounts stages book items) (complete : ∀ stage, stage ∈ stages)
    (distinct : stages.Nodup) {moved : List ι} {source target : σ}
    (moves : Moves book book' moved source target) : Accounts stages book' items := by
  classical
  refine List.perm_iff_count.mpr fun item => ?_
  have balance := count_of_moves moves stages distinct item
  rw [if_pos (complete source), if_pos (complete target)] at balance
  rw [← accounts.count_eq]
  omega

/-- A move between stages on the same side of a line takes nothing over it. -/
theorem mem_side_of_moves {side : σ → Prop} {moved : List ι} {source target : σ}
    (moves : Moves book book' moved source target) (same : side source ↔ side target) {item : ι} :
    (∃ stage, side stage ∧ item ∈ book' stage) ↔ ∃ stage, side stage ∧ item ∈ book stage := by
  have left : item ∈ book source ↔ item ∈ moved ∨ item ∈ book' source := by
    rw [moves.left.mem_iff, List.mem_append]
  have came : item ∈ book' target ↔ item ∈ book target ∨ item ∈ moved := by
    rw [moves.came.mem_iff, List.mem_append]
  constructor
  · rintro ⟨stage, there, member⟩
    by_cases atTarget : stage = target
    · subst atTarget
      rcases came.mp member with old | new
      · exact ⟨stage, there, old⟩
      · exact ⟨source, same.mpr there, left.mpr (Or.inl new)⟩
    · by_cases atSource : stage = source
      · subst atSource
        exact ⟨stage, there, left.mpr (Or.inr member)⟩
      · rw [moves.rest stage atSource atTarget] at member
        exact ⟨stage, there, member⟩
  · rintro ⟨stage, there, member⟩
    by_cases atSource : stage = source
    · subst atSource
      rcases left.mp member with gone | stays
      · exact ⟨target, same.mp there, came.mpr (Or.inr gone)⟩
      · exact ⟨stage, there, stays⟩
    · by_cases atTarget : stage = target
      · subst atTarget
        exact ⟨stage, there, came.mpr (Or.inl member)⟩
      · rw [← moves.rest stage atSource atTarget] at member
        exact ⟨stage, there, member⟩

/-- A move over the line brings its items to the other side. -/
theorem mem_side_of_crossing {side : σ → Prop} {moved : List ι} {source target : σ}
    (moves : Moves book book' moved source target) (outside : ¬ side source) (inside : side target)
    {item : ι} :
    (∃ stage, side stage ∧ item ∈ book' stage) ↔
      item ∈ moved ∨ ∃ stage, side stage ∧ item ∈ book stage := by
  have came : item ∈ book' target ↔ item ∈ book target ∨ item ∈ moved := by
    rw [moves.came.mem_iff, List.mem_append]
  constructor
  · rintro ⟨stage, there, member⟩
    by_cases atTarget : stage = target
    · subst atTarget
      rcases came.mp member with old | new
      · exact Or.inr ⟨stage, there, old⟩
      · exact Or.inl new
    · have away : stage ≠ source := by
        rintro rfl
        exact outside there
      rw [moves.rest stage away atTarget] at member
      exact Or.inr ⟨stage, there, member⟩
  · rintro (new | ⟨stage, there, member⟩)
    · exact ⟨target, inside, came.mpr (Or.inr new)⟩
    · by_cases atTarget : stage = target
      · subst atTarget
        exact ⟨stage, there, came.mpr (Or.inl member)⟩
      · have away : stage ≠ source := by
          rintro rfl
          exact outside there
        rw [← moves.rest stage away atTarget] at member
        exact ⟨stage, there, member⟩

theorem mem_side_of_enters {side : σ → Prop} {entered : List ι} {stage : σ}
    (enters : Enters book book' entered stage) (outside : ¬ side stage) {item : ι} :
    (∃ other, side other ∧ item ∈ book' other) ↔ ∃ other, side other ∧ item ∈ book other := by
  have same : ∀ other, side other → book' other = book other := by
    intro other there
    refine enters.rest other ?_
    rintro rfl
    exact outside there
  constructor
  · rintro ⟨other, there, member⟩
    exact ⟨other, there, same other there ▸ member⟩
  · rintro ⟨other, there, member⟩
    exact ⟨other, there, (same other there).symm ▸ member⟩

end OpenSovd.Support.Ledger
