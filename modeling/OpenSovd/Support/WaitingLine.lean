import Mathlib.Data.List.Nodup

/-! A waiting line: who comes joins at the end, who is first goes, and others may
give up. Nobody passes who stays in line. -/
namespace OpenSovd.Support.WaitingLine

variable {α : Type} {line rest : List α} {here other : α}

/-- `here` is in line, and `other` is not in front of it. -/
def Behind (line : List α) (here other : α) : Prop :=
  ∃ front back, line = front ++ here :: back ∧ other ∉ front

theorem behind_joined (behind : Behind line here other) (next : α) :
    Behind (line ++ [next]) here other := by
  obtain ⟨front, back, rfl, notAhead⟩ := behind
  exact ⟨front, back ++ [next], by simp, notAhead⟩

/-- When somebody else goes, it is not `other` either. -/
theorem behind_gone {first : α} (behind : Behind (first :: rest) here other)
    (stays : first ≠ here) : Behind rest here other ∧ first ≠ other := by
  obtain ⟨front, back, split, notAhead⟩ := behind
  cases front with
  | nil => exact absurd (List.cons.inj split).1 stays
  | cons head front =>
    obtain ⟨same, remains⟩ := List.cons.inj split
    subst same
    refine ⟨⟨front, back, remains, fun ahead => notAhead (List.mem_cons_of_mem _ ahead)⟩, ?_⟩
    rintro rfl
    exact notAhead List.mem_cons_self

theorem behind_left [DecidableEq α] (behind : Behind line here other) {left : α}
    (stays : left ≠ here) : Behind (line.erase left) here other := by
  obtain ⟨front, back, rfl, notAhead⟩ := behind
  by_cases ahead : left ∈ front
  · refine ⟨front.erase left, back, List.erase_append_left _ ahead, fun member => ?_⟩
    exact notAhead (List.mem_of_mem_erase member)
  · refine ⟨front, back.erase left, ?_, notAhead⟩
    rw [List.erase_append_right _ ahead, List.erase_cons_tail (by simpa using stays.symm)]

/-- Whoever is in front of somebody has them behind. -/
theorem behind_of_mem_front {front back : List α} (inFront : here ∈ front) (once : other ∉ front) :
    Behind (front ++ other :: back) here other := by
  obtain ⟨before, between, rfl⟩ := List.append_of_mem inFront
  refine ⟨before, between ++ other :: back, by simp, fun member => ?_⟩
  exact once (List.mem_append_left _ member)

end OpenSovd.Support.WaitingLine
