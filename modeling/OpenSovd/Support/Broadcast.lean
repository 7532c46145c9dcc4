import Mathlib.Data.List.Basic
import OpenSovd.Support.ChangeLog

/-! A broadcast channel with bounded memory. Every receiver reads the stream from
where it subscribed on, but the channel keeps the last values only: a receiver
that is further behind is told how many values it lost and goes on with the
oldest one that was kept. What it passed, received or lost, is the stream without
a gap, and a set it mirrors is right about every key that was changed again after
the last loss. -/
namespace OpenSovd.Support.Broadcast
open OpenSovd.Support.ChangeLog

variable {α κ : Type}

/-- What a receiver gets past by one call: the next value, or the values that
were overwritten. Of those the call tells their number. -/
inductive Passed (α : Type) where
  | received (value : α)
  | skipped (values : List α)

def Passed.values : Passed α → List α
  | .received value => [value]
  | .skipped values => values

/-- A receiver: where it subscribed and its position. What it has passed and the
most values that were waiting at any of its calls are history only. -/
structure Receiver (α : Type) where
  joined : Nat
  next : Nat
  passed : List (Passed α)
  backlog : Nat

def subscribe (sent : List α) : Receiver α := ⟨sent.length, sent.length, [], 0⟩

/-- One call when the channel keeps the last `retained` values. With nothing
waiting it does not return. -/
def Receiver.recv (retained : Nat) (sent : List α) (self : Receiver α) : Option (Receiver α) :=
  match sent.drop self.next with
  | [] => none
  | value :: later =>
    let waiting := later.length + 1
    let passed :=
      if retained < waiting then .skipped ((value :: later).take (waiting - retained))
      else .received value
    some { self with
      next := self.next + passed.values.length
      passed := self.passed ++ [passed]
      backlog := max self.backlog waiting }

def received (passed : List (Passed α)) : List α :=
  passed.filterMap fun
    | .received value => some value
    | .skipped _ => none

/-- Received or not. -/
def stream (passed : List (Passed α)) : List α := passed.flatMap Passed.values

def Lossless (passed : List (Passed α)) : Prop := ∀ values, Passed.skipped values ∉ passed

/-- The history explains the position: what was passed is the stream since the
subscription, and something was lost exactly if more was waiting than is kept. -/
structure Receiver.Accounted (retained : Nat) (sent : List α) (receiver : Receiver α) : Prop where
  started : receiver.joined ≤ receiver.next
  inside : receiver.next ≤ sent.length
  passed : stream receiver.passed = (sent.take receiver.next).drop receiver.joined
  lossless : Lossless receiver.passed ↔ receiver.backlog ≤ retained

variable {retained : Nat} {sent more : List α} {receiver next : Receiver α}

theorem stream_append (front back : List (Passed α)) :
    stream (front ++ back) = stream front ++ stream back := List.flatMap_append

theorem lossless_append_singleton {passed : List (Passed α)} {step : Passed α} :
    Lossless (passed ++ [step]) ↔ Lossless passed ∧ ∀ values, step ≠ .skipped values := by
  simp only [Lossless, List.mem_append, List.mem_singleton, not_or, forall_and, ne_comm, ne_eq]

theorem accounted_subscribe (sent : List α) : (subscribe sent).Accounted retained sent where
  started := Nat.le_refl _
  inside := Nat.le_refl _
  passed := by simp [subscribe, stream]
  lossless := by simp [subscribe, Lossless]

/-- Sending changes nothing for what a receiver has passed. -/
theorem accounted_sent (accounted : receiver.Accounted retained sent) :
    receiver.Accounted retained (sent ++ more) where
  started := accounted.started
  inside := by
    have inside := accounted.inside
    rw [List.length_append]
    omega
  passed := by rw [accounted.passed, List.take_append_of_le_length accounted.inside]
  lossless := accounted.lossless

/-- One call passes what comes next in the stream, and loses some of it exactly
if more is waiting than is kept. -/
theorem recv_cases (returned : receiver.recv retained sent = some next) :
    ∃ step, next.passed = receiver.passed ++ [step] ∧ next.joined = receiver.joined ∧
      next.next = receiver.next + step.values.length ∧ step.values <+: sent.drop receiver.next ∧
      step.values ≠ [] ∧ next.backlog = max receiver.backlog (sent.length - receiver.next) ∧
      ((∀ values, step ≠ .skipped values) ↔ sent.length - receiver.next ≤ retained) := by
  unfold Receiver.recv at returned
  split at returned
  · cases returned
  · rename_i value later waiting
    have count : sent.length - receiver.next = later.length + 1 := by
      rw [← List.length_drop, waiting, List.length_cons]
    cases returned
    refine ⟨_, rfl, rfl, rfl, ?_, ?_, by rw [count], ?_⟩
    · rw [waiting]
      split
      · exact List.take_prefix _ _
      · exact ⟨later, rfl⟩
    · split
      · rename_i behind
        simp only [Passed.values, ne_eq, List.take_eq_nil_iff, reduceCtorEq, or_false]
        omega
      · simp [Passed.values]
    · rw [count]
      split <;> simp <;> omega

theorem accounted_recv (accounted : receiver.Accounted retained sent)
    (returned : receiver.recv retained sent = some next) : next.Accounted retained sent := by
  obtain ⟨step, grown, joined, moved, ⟨rest, waiting⟩, _, backlog, kept⟩ := recv_cases returned
  have started := accounted.started
  have count : step.values.length + rest.length = sent.length - receiver.next := by
    rw [← List.length_append, waiting, List.length_drop]
  have inside := accounted.inside
  refine ⟨by omega, by omega, ?_, ?_⟩
  · have taken : sent.take next.next = sent.take receiver.next ++ step.values := by
      rw [moved, List.take_add, ← waiting, List.take_left]
    rw [grown, stream_append, accounted.passed, taken, joined, List.drop_append_of_le_length]
    · simp [stream]
    · rw [List.length_take]
      omega
  · rw [grown, lossless_append_singleton, accounted.lossless, kept, backlog]
    omega

/-! ### Mirroring a set -/

/-- Every value about the key that was lost was followed by one that was not. -/
def Current (change : α → Change κ) (probe : κ) (passed : List (Passed α)) : Prop :=
  ∀ before values after, passed = before ++ .skipped values :: after →
    (∃ value ∈ values, (change value).key = probe) →
    ∃ value ∈ received after, (change value).key = probe

theorem current_of_lossless {change : α → Change κ} {probe : κ} {passed : List (Passed α)}
    (lossless : Lossless passed) : Current change probe passed := by
  rintro before values after rfl
  exact absurd (by simp) (lossless values)

/-- What was received says as much about a current key as the whole stream. -/
theorem mem_replay_received {change : α → Change κ} {probe : κ} {passed : List (Passed α)}
    (current : Current change probe passed) {left right : Set κ}
    (agree : (∃ value ∈ received passed, (change value).key = probe) ∨
      (probe ∈ left ↔ probe ∈ right)) :
    probe ∈ replay ((received passed).map change) left ↔
      probe ∈ replay ((stream passed).map change) right := by
  induction passed generalizing left right with
  | nil => simpa [received, stream] using agree
  | cons step rest ih =>
    have later : Current change probe rest := by
      rintro before values after rfl
      exact current (step :: before) values after rfl
    cases step with
    | received value =>
      refine ih later ?_
      by_cases again : ∃ value ∈ received rest, (change value).key = probe
      · exact Or.inl again
      · refine Or.inr (mem_apply_congr ?_)
        rcases agree with ⟨touching, member, same⟩ | same
        · rcases List.mem_cons.mp member with rfl | member
          · exact Or.inl same
          · exact absurd ⟨touching, member, same⟩ again
        · exact Or.inr same
    | skipped values =>
      have split : stream (.skipped values :: rest) = values ++ stream rest := rfl
      rw [split, List.map_append, replay_append]
      refine ih later ?_
      by_cases touched : ∃ value ∈ values, (change value).key = probe
      · exact Or.inl (current [] values rest rfl touched)
      · refine agree.imp_right fun same => same.trans (mem_replay_of_untouched ?_).symm
        intro untouched member
        obtain ⟨value, lost, rfl⟩ := List.mem_map.mp member
        exact fun about => touched ⟨value, lost, about⟩

end OpenSovd.Support.Broadcast
