import OpenSovd.Support.OrderedMap
import OpenSovd.Support.Runs

/-! An insertion-ordered map against the history that made it. A history is a
run of operations of which some call the map. A key is live exactly when its
last call put it, and holds what that call put; the live keys stand in the order
in which their live periods began, so an overwrite keeps the place of a key and
a removal gives it up. -/
namespace OpenSovd.Support

inductive MapCall (κ β : Type) where
  | put (key : κ) (value : β)
  | remove (key : κ)

namespace MapCall
variable {κ β : Type}

def key : MapCall κ β → κ
  | .put key _ => key
  | .remove key => key

def perform [DecidableEq κ] (m : OrderedMap κ β) : MapCall κ β → OrderedMap κ β
  | .put key value => m.insert key value
  | .remove key => m.shiftRemove key

/-- The map after an operation that makes this call, if it makes one. -/
def performIf [DecidableEq κ] (m : OrderedMap κ β) : Option (MapCall κ β) → OrderedMap κ β
  | none => m
  | some call => call.perform m

end MapCall

namespace MapHistory
open Runs

variable {κ β α : Type} [DecidableEq κ] (call : α → Option (MapCall κ β))

/-- The last call on a key. -/
def lastCall (key : κ) (ops : List α) : Option (MapCall κ β) :=
  ((ops.filterMap call).filter fun made => made.key = key).getLast?

/-- The operation at this position puts the key while it is not live, and
nothing removes it afterwards. -/
structure Begins (ops : List α) (key : κ) (position : Nat) : Prop where
  puts : ∃ op value, ops[position]? = some op ∧ call op = some (.put key value)
  absent : ∀ value, lastCall call key (ops.take position) ≠ some (.put key value)
  stays : ∀ later op, position < later → ops[later]? = some op → call op ≠ some (.remove key)

/-- What the map tells about its history. -/
structure Refines (ops : List α) (m : OrderedMap κ β) : Prop where
  live : ∀ key value, m.get key = some value ↔ lastCall call key ops = some (.put key value)
  begun : ∀ key ∈ m.keys, ∃! position, Begins call ops key position
  order : m.keys.Pairwise fun earlier later => ∀ i j,
    Begins call ops earlier i → Begins call ops later j → i < j

variable {call} {ops : List α} {key : κ}

theorem lastCall_append_singleton (op : α) :
    lastCall call key (ops ++ [op]) =
      match call op with
      | none => lastCall call key ops
      | some made => if made.key = key then some made else lastCall call key ops := by
  unfold lastCall
  cases made : call op with
  | none => simp [List.filterMap_append, made]
  | some made' =>
    by_cases same : made'.key = key <;> simp [List.filterMap_append, made, same]

/-! ### Where a live period begins -/

/-- A put that nothing removes keeps the key live up to any later point. -/
theorem live_until {position : Nat} (begins : Begins call ops key position) (more : Nat)
    (within : position + 1 + more ≤ ops.length) :
    ∃ value, lastCall call key (ops.take (position + 1 + more)) = some (.put key value) := by
  induction more with
  | zero =>
    obtain ⟨op, value, found, made⟩ := begins.puts
    rw [Nat.add_zero, List.take_add_one, found, Option.toList_some, lastCall_append_singleton, made]
    exact ⟨value, if_pos rfl⟩
  | succ more ih =>
    obtain ⟨value, lives⟩ := ih (by omega)
    obtain ⟨op, found⟩ : ∃ op, ops[position + 1 + more]? = some op :=
      ⟨_, List.getElem?_eq_getElem (by omega)⟩
    have kept := begins.stays (position + 1 + more) op (by omega) found
    rw [← Nat.add_assoc, List.take_add_one, found, Option.toList_some, lastCall_append_singleton]
    cases made : call op with
    | none => exact ⟨value, lives⟩
    | some made' =>
      by_cases same : made'.key = key
      · subst same
        cases made' with
        | put own new => exact ⟨new, if_pos rfl⟩
        | remove own => exact absurd made kept
      · exact ⟨value, by rw [← lives]; exact if_neg same⟩

theorem Begins.not_later {i j : Nat} (first : Begins call ops key i) (second : Begins call ops key j) :
    ¬ i < j := by
  intro later
  obtain ⟨op, value, found, _⟩ := second.puts
  have within : j < ops.length := (List.getElem?_eq_some_iff.mp found).1
  obtain ⟨value, lives⟩ := live_until first (j - (i + 1)) (by omega)
  have here : i + 1 + (j - (i + 1)) = j := by omega
  rw [here] at lives
  exact second.absent value lives

/-- A live period begins at one position. -/
theorem Begins.unique {i j : Nat} (first : Begins call ops key i) (second : Begins call ops key j) :
    i = j := by
  have before := first.not_later second
  have after := second.not_later first
  omega

theorem Begins.lt_length {i : Nat} (begins : Begins call ops key i) : i < ops.length := by
  obtain ⟨op, value, found, _⟩ := begins.puts
  exact (List.getElem?_eq_some_iff.mp found).1

/-- A live period goes on as long as the key is not removed. -/
theorem Begins.append_singleton {i : Nat} (begins : Begins call ops key i) {op : α}
    (kept : call op ≠ some (.remove key)) : Begins call (ops ++ [op]) key i := by
  have within := begins.lt_length
  constructor
  · rw [List.getElem?_append_left within]
    exact begins.puts
  · rw [List.take_append_of_le_length (by omega)]
    exact begins.absent
  · intro later next after found
    by_cases inside : later < ops.length
    · rw [List.getElem?_append_left inside] at found
      exact begins.stays later next after found
    · rw [List.getElem?_append_right (by omega)] at found
      cases List.mem_singleton.mp (List.mem_of_getElem? found)
      exact kept

/-- A put of a key that is not live begins a live period. -/
theorem Begins.last {op : α} {value : β} (made : call op = some (.put key value))
    (fresh : ∀ value, lastCall call key ops ≠ some (.put key value)) :
    Begins call (ops ++ [op]) key ops.length := by
  constructor
  · exact ⟨op, value, by simp, made⟩
  · simpa using fresh
  · intro later next after found
    have within := (List.getElem?_eq_some_iff.mp found).1
    rw [List.length_append, List.length_singleton] at within
    omega

/-! ### Histories -/

/-- A live key that is not removed keeps the position its live period began at. -/
theorem begins_append_singleton_iff {m : OrderedMap κ β} (refines : Refines call ops m)
    (member : key ∈ m.keys) {op : α} (kept : call op ≠ some (.remove key)) (position : Nat) :
    Begins call (ops ++ [op]) key position ↔ Begins call ops key position := by
  constructor
  · intro begins
    obtain ⟨own, began, _⟩ := refines.begun key member
    rwa [begins.unique (began.append_singleton kept)]
  · exact fun begins => begins.append_singleton kept

/-- Keys whose live periods go on keep their order. -/
theorem order_kept {m : OrderedMap κ β} (refines : Refines call ops m) {op : α} {keys : List κ}
    (sub : keys.Sublist m.keys) (kept : ∀ key ∈ keys, call op ≠ some (.remove key)) :
    (∀ key ∈ keys, ∃! position, Begins call (ops ++ [op]) key position) ∧
      keys.Pairwise fun earlier later => ∀ i j,
        Begins call (ops ++ [op]) earlier i → Begins call (ops ++ [op]) later j → i < j := by
  have same (key : κ) (member : key ∈ keys) :=
    begins_append_singleton_iff refines (sub.subset member) (kept key member)
  constructor
  · intro key member
    obtain ⟨position, began, only⟩ := refines.begun key (sub.subset member)
    exact ⟨position, (same key member position).mpr began,
      fun other begins => only other ((same key member other).mp begins)⟩
  · refine (refines.order.sublist sub).imp_of_mem fun {earlier later} here there before i j => ?_
    rw [same earlier here, same later there]
    exact before i j

theorem live_step {m : OrderedMap κ β} (refines : Refines call ops m) (op : α) {made : MapCall κ β}
    (calls : call op = some made) (key : κ) (value : β) :
    (made.perform m).get key = some value ↔ lastCall call key (ops ++ [op]) = some (.put key value) := by
  rw [lastCall_append_singleton, calls]
  cases made with
  | put own new =>
    simp only [MapCall.perform, MapCall.key, OrderedMap.get_insert]
    by_cases same : own = key
    · subst same
      simp
    · simp [same, Ne.symm same, refines.live]
  | remove own =>
    simp only [MapCall.perform, MapCall.key, OrderedMap.get_shiftRemove]
    by_cases same : own = key
    · subst same
      simp
    · simp [same, Ne.symm same, refines.live]

theorem refines_skip {m : OrderedMap κ β} (refines : Refines call ops m) {op : α}
    (skipped : call op = none) : Refines call (ops ++ [op]) m := by
  have kept : ∀ key ∈ m.keys, call op ≠ some (.remove key) := by simp [skipped]
  obtain ⟨begun, order⟩ := order_kept refines (List.Sublist.refl _) kept
  refine ⟨fun key value => ?_, begun, order⟩
  rw [lastCall_append_singleton, skipped]
  exact refines.live key value

theorem refines_put {m : OrderedMap κ β} (refines : Refines call ops m) {op : α} {value : β}
    (calls : call op = some (.put key value)) : Refines call (ops ++ [op]) (m.insert key value) := by
  have kept : ∀ other ∈ m.keys, call op ≠ some (.remove other) := by simp [calls]
  obtain ⟨begun, order⟩ := order_kept refines (List.Sublist.refl _) kept
  have live := live_step refines op calls
  by_cases present : key ∈ m.keys
  · have keys : (m.insert key value).keys = m.keys := by rw [OrderedMap.keys_insert, if_pos present]
    exact ⟨live, keys ▸ begun, keys ▸ order⟩
  · have keys : (m.insert key value).keys = m.keys ++ [key] := by
      rw [OrderedMap.keys_insert, if_neg present]
    have fresh : ∀ found, lastCall call key ops ≠ some (.put key found) := by
      intro found lives
      exact present (OrderedMap.mem_keys_iff.mpr ⟨found, (refines.live key found).mpr lives⟩)
    have last := Begins.last calls fresh
    refine ⟨live, ?_, ?_⟩
    · rw [keys]
      intro other member
      rcases List.mem_append.mp member with old | new
      · exact begun other old
      · rw [List.mem_singleton.mp new]
        exact ⟨ops.length, last, fun position begins => begins.unique last⟩
    · rw [keys, List.pairwise_append]
      refine ⟨order, List.pairwise_singleton _ _, ?_⟩
      intro earlier old later new i j first second
      rw [List.mem_singleton.mp new] at second
      have before := ((begins_append_singleton_iff refines old (kept earlier old) i).mp first).lt_length
      rw [second.unique last]
      exact before

theorem refines_remove {m : OrderedMap κ β} (refines : Refines call ops m) {op : α}
    (calls : call op = some (.remove key)) : Refines call (ops ++ [op]) (m.shiftRemove key) := by
  have sub : (m.keys.filter fun other => other ≠ key).Sublist m.keys := List.filter_sublist
  have kept : ∀ other ∈ m.keys.filter fun other => other ≠ key, call op ≠ some (.remove other) := by
    intro other member removed
    rw [calls] at removed
    cases removed
    simpa using (List.mem_filter.mp member).2
  obtain ⟨begun, order⟩ := order_kept refines sub kept
  have keys := OrderedMap.keys_shiftRemove m key
  exact ⟨live_step refines op calls, keys ▸ begun, keys ▸ order⟩

/-- **A map refines its history**: whatever the larger machine does besides, a
map that is part of its state tells what the calls on it were. -/
theorem refines_of_run {σ : Type} {step : σ → α → σ} {init : σ} {map : σ → OrderedMap κ β}
    (starts : map init = .empty)
    (simulates : ∀ s op, map (step s op) = MapCall.performIf (map s) (call op))
    (ops : List α) : Refines call ops (map (ops.foldl step init)) := by
  induction ops using List.reverseRecOn with
  | nil =>
    rw [List.foldl_nil, starts]
    exact ⟨fun key value => by simp [lastCall], by simp [OrderedMap.keys, OrderedMap.empty],
      List.Pairwise.nil⟩
  | append_singleton ops op ih =>
    rw [foldl_append_singleton, simulates]
    cases calls : call op with
    | none => exact refines_skip ih calls
    | some made =>
      cases made with
      | put key value => exact refines_put ih calls
      | remove key => exact refines_remove ih calls

end MapHistory
end OpenSovd.Support
