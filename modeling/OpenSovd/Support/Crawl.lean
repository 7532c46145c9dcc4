import Mathlib.Data.List.Basic
import Mathlib.Logic.Relation

/-! Crawling in rounds: each round adds the successors of everything found so
far. What a round finds can be reached, and once a round finds nothing new,
everything that can be reached has been found. -/
namespace OpenSovd.Support.Crawl

variable {α : Type} (next : α → List α) (start : α)

/-- What can be reached by following successors. -/
def Reachable : α → Prop := Relation.ReflTransGen (fun a b => b ∈ next a) start

/-- What is found in a number of rounds. -/
def rounds : Nat → List α
  | 0 => [start]
  | n + 1 => rounds n ++ (rounds n).flatMap next

variable {next start}

theorem mem_rounds_succ {n : Nat} {b : α} :
    b ∈ rounds next start (n + 1) ↔
      b ∈ rounds next start n ∨ ∃ a ∈ rounds next start n, b ∈ next a := by
  rw [rounds, List.mem_append, List.mem_flatMap]

/-- A successor of a find is a find of the next round. -/
theorem mem_rounds_of_next {n : Nat} {a b : α} (found : a ∈ rounds next start n)
    (link : b ∈ next a) : b ∈ rounds next start (n + 1) :=
  mem_rounds_succ.mpr (Or.inr ⟨a, found, link⟩)

theorem rounds_mono {m n : Nat} (le : m ≤ n) {a : α} (found : a ∈ rounds next start m) :
    a ∈ rounds next start n := by
  induction le with
  | refl => exact found
  | step _ ih => exact mem_rounds_succ.mpr (Or.inl ih)

theorem reachable_of_mem_rounds {n : Nat} {a : α} (found : a ∈ rounds next start n) :
    Reachable next start a := by
  induction n generalizing a with
  | zero =>
    cases List.mem_singleton.mp found
    exact .refl
  | succ n ih =>
    rcases mem_rounds_succ.mp found with earlier | ⟨from_, found, link⟩
    · exact ih earlier
    · exact .tail (ih found) link

/-- What holds at the start and is kept along every link holds of all finds. -/
theorem Reachable.invariant {I : α → Prop} (base : I start)
    (keeps : ∀ a b, I a → b ∈ next a → I b) {a : α} (reached : Reachable next start a) : I a := by
  induction reached with
  | refl => exact base
  | tail _ link ih => exact keeps _ _ ih link

/-- A set that holds the start and is kept along every link, and that some round
finds, is all there is. -/
theorem reachable_iff_of_saturated {I : α → Prop} {n : Nat} (base : I start)
    (keeps : ∀ a b, I a → b ∈ next a → I b) (found : ∀ a, I a → a ∈ rounds next start n) (a : α) :
    (Reachable next start a ↔ I a) ∧ (a ∈ rounds next start n ↔ I a) := by
  refine ⟨⟨Reachable.invariant base keeps, fun inside => ?_⟩, fun inside => ?_, found a⟩
  · exact reachable_of_mem_rounds (found a inside)
  · exact (reachable_of_mem_rounds inside).invariant base keeps

end OpenSovd.Support.Crawl
