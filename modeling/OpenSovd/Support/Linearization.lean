import Mathlib.Data.List.Induction
import Mathlib.Logic.Function.Basic
import Mathlib.Logic.Relation

/-! Operations that overlap on a shared value. Each takes effect at one moment
between its call and its reply, and the value may change by itself in between.
The history keeps the order of all this: its effects are a sequential run, and a
reply is that of the effect its own call had. -/
namespace OpenSovd.Support.Linearization

/-- An operation that has been called and not replied to. -/
inductive Stage (ω ρ : Type) where
  | called (op : ω)
  | settled (op : ω) (answer : ρ)

inductive Event (κ ω ρ ε : Type) where
  | call (client : κ) (op : ω)
  | effect (client : κ) (op : ω) (answer : ρ)
  | reply (client : κ) (op : ω) (answer : ρ)
  | cancel (client : κ)
  | change (change : ε)

variable {σ κ ω ρ ε : Type}

def Event.client? : Event κ ω ρ ε → Option κ
  | .call client _ | .effect client _ _ | .reply client _ _ | .cancel client => some client
  | .change _ => none

/-- The value, the operations in progress and what has happened. -/
structure Shared (σ κ ω ρ ε : Type) where
  value : σ
  stage : κ → Option (Stage ω ρ)
  history : List (Event κ ω ρ ε)

namespace Shared

def new (value : σ) : Shared σ κ ω ρ ε := ⟨value, fun _ => none, []⟩

variable [DecidableEq κ]

/-- A client moves on, and the history says how. -/
def move (s : Shared σ κ ω ρ ε) (client : κ) (stage : Option (Stage ω ρ))
    (event : Event κ ω ρ ε) : Shared σ κ ω ρ ε :=
  { s with stage := Function.update s.stage client stage, history := s.history ++ [event] }

end Shared

section Histories
variable (serve : σ → ω → σ × ρ) (alter : σ → ε → σ)

/-- What an event does to the value. -/
def apply (value : σ) : Event κ ω ρ ε → σ
  | .effect _ op _ => (serve value op).1
  | .change change => alter value change
  | .call _ _ | .reply _ _ _ | .cancel _ => value

def valueAfter (init : σ) (history : List (Event κ ω ρ ε)) : σ :=
  history.foldl (apply serve alter) init

/-- The event is the last one of its client. -/
def Latest (client : κ) (event : Event κ ω ρ ε) (history : List (Event κ ω ρ ε)) : Prop :=
  ∃ earlier later, history = earlier ++ event :: later ∧ ∀ e ∈ later, e.client? ≠ some client

/-- The effects of a history are a sequential run from `init`; an effect is that of
the latest call of its client, and a reply that of the latest effect. -/
structure Linearized (init : σ) (history : List (Event κ ω ρ ε)) : Prop where
  answers : ∀ {before client op answer rest}, history = before ++ .effect client op answer :: rest →
    answer = (serve (valueAfter serve alter init before) op).2
  called : ∀ {before client op answer rest}, history = before ++ .effect client op answer :: rest →
    Latest client (.call client op) before
  replied : ∀ {before client op answer rest}, history = before ++ .reply client op answer :: rest →
    Latest client (.effect client op answer) before

end Histories

/-! ### Growing histories -/

/-- The last event is new, the others were there before. -/
theorem append_singleton_split {history before rest : List (Event κ ω ρ ε)}
    {last event : Event κ ω ρ ε} (split : history ++ [last] = before ++ event :: rest) :
    (before = history ∧ event = last) ∨ ∃ rest', history = before ++ event :: rest' := by
  induction rest using List.reverseRecOn with
  | nil =>
    obtain ⟨same, ends⟩ := List.append_inj' split rfl
    exact Or.inl ⟨same.symm, (List.cons.inj ends).1.symm⟩
  | append_singleton rest final _ =>
    rw [← List.cons_append, ← List.append_assoc] at split
    exact Or.inr ⟨rest, (List.append_inj' split rfl).1⟩

theorem latest_new (client : κ) (event : Event κ ω ρ ε) (history : List (Event κ ω ρ ε)) :
    Latest client event (history ++ [event]) :=
  ⟨history, [], rfl, nofun⟩

/-- The events of others do not matter. -/
theorem latest_append {client : κ} {event last : Event κ ω ρ ε} {history : List (Event κ ω ρ ε)}
    (latest : Latest client event history) (other : last.client? ≠ some client) :
    Latest client event (history ++ [last]) := by
  obtain ⟨earlier, later, split, quiet⟩ := latest
  refine ⟨earlier, later ++ [last], by rw [split]; simp, fun e member => ?_⟩
  rcases List.mem_append.mp member with old | new
  · exact quiet e old
  · rw [List.mem_singleton.mp new]
    exact other

section Growing
variable {serve : σ → ω → σ × ρ} {alter : σ → ε → σ} {init : σ} {history : List (Event κ ω ρ ε)}

@[simp] theorem valueAfter_append_singleton (event : Event κ ω ρ ε) :
    valueAfter serve alter init (history ++ [event]) =
      apply serve alter (valueAfter serve alter init history) event := by
  simp [valueAfter]

theorem valueAfter_append (later : List (Event κ ω ρ ε)) :
    valueAfter serve alter init (history ++ later) =
      valueAfter serve alter (valueAfter serve alter init history) later := List.foldl_append

theorem linearized_nil : Linearized serve alter init ([] : List (Event κ ω ρ ε)) where
  answers split := by simp at split
  called split := by simp at split
  replied split := by simp at split

/-- Neither an effect nor a reply. -/
def Event.Silent : Event κ ω ρ ε → Prop
  | .effect _ _ _ | .reply _ _ _ => False
  | _ => True

theorem linearized_silent (linear : Linearized serve alter init history)
    {event : Event κ ω ρ ε} (silent : event.Silent) :
    Linearized serve alter init (history ++ [event]) where
  answers split := by
    rcases append_singleton_split split with ⟨_, rfl⟩ | ⟨_, old⟩
    · exact silent.elim
    · exact linear.answers old
  called split := by
    rcases append_singleton_split split with ⟨_, rfl⟩ | ⟨_, old⟩
    · exact silent.elim
    · exact linear.called old
  replied split := by
    rcases append_singleton_split split with ⟨_, rfl⟩ | ⟨_, old⟩
    · exact silent.elim
    · exact linear.replied old

theorem linearized_effect (linear : Linearized serve alter init history) {client : κ} {op : ω}
    (called : Latest client (.call client op) history) :
    Linearized serve alter init (history ++
      [.effect client op (serve (valueAfter serve alter init history) op).2]) where
  answers split := by
    rcases append_singleton_split split with ⟨rfl, same⟩ | ⟨_, old⟩
    · cases same
      rfl
    · exact linear.answers old
  called split := by
    rcases append_singleton_split split with ⟨rfl, same⟩ | ⟨_, old⟩
    · cases same
      exact called
    · exact linear.called old
  replied split := by
    rcases append_singleton_split split with ⟨_, same⟩ | ⟨_, old⟩
    · cases same
    · exact linear.replied old

theorem linearized_reply (linear : Linearized serve alter init history) {client : κ} {op : ω}
    {answer : ρ} (settled : Latest client (.effect client op answer) history) :
    Linearized serve alter init (history ++ [.reply client op answer]) where
  answers split := by
    rcases append_singleton_split split with ⟨_, same⟩ | ⟨_, old⟩
    · cases same
    · exact linear.answers old
  called split := by
    rcases append_singleton_split split with ⟨_, same⟩ | ⟨_, old⟩
    · cases same
    · exact linear.called old
  replied split := by
    rcases append_singleton_split split with ⟨rfl, same⟩ | ⟨_, old⟩
    · cases same
      exact settled
    · exact linear.replied old

end Growing

/-! ### Runs -/

variable [DecidableEq κ] (serve : σ → ω → σ × ρ) (alter : σ → ε → σ)

/-- A step of the clients, or a change by itself. -/
inductive Step : Shared σ κ ω ρ ε → Shared σ κ ω ρ ε → Prop where
  | call {s} (client : κ) (op : ω) (idle : s.stage client = none) :
      Step s (s.move client (some (.called op)) (.call client op))
  | effect {s client op} (called : s.stage client = some (.called op)) :
      Step s { s.move client (some (.settled op (serve s.value op).2))
          (.effect client op (serve s.value op).2) with value := (serve s.value op).1 }
  | reply {s client op answer} (settled : s.stage client = some (.settled op answer)) :
      Step s (s.move client none (.reply client op answer))
  | cancel {s} (client : κ) : Step s (s.move client none (.cancel client))
  | change {s} (change : ε) :
      Step s { s with value := alter s.value change, history := s.history ++ [.change change] }

/-- A step that no client makes: nothing happens, an operation takes effect, or the
value changes by itself. -/
inductive Internal : Shared σ κ ω ρ ε → Shared σ κ ω ρ ε → Prop where
  | rest {s} : Internal s s
  | effect {s client op} (called : s.stage client = some (.called op)) :
      Internal s { s.move client (some (.settled op (serve s.value op).2))
          (.effect client op (serve s.value op).2) with value := (serve s.value op).1 }
  | change {s} (change : ε) :
      Internal s { s with value := alter s.value change, history := s.history ++ [.change change] }

/-- What a stage says about the history. -/
def Explains (history : List (Event κ ω ρ ε)) (client : κ) : Stage ω ρ → Prop
  | .called op => Latest client (.call client op) history
  | .settled op answer => Latest client (.effect client op answer) history

structure Consistent (init : σ) (s : Shared σ κ ω ρ ε) : Prop where
  value : s.value = valueAfter serve alter init s.history
  linear : Linearized serve alter init s.history
  explains : ∀ client stage, s.stage client = some stage → Explains s.history client stage

variable {serve alter} {init : σ} {s t : Shared σ κ ω ρ ε}

theorem step_of_internal (step : Internal serve alter s t) : Step serve alter s t ∨ t = s := by
  cases step with
  | rest => exact Or.inr rfl
  | effect called => exact Or.inl (.effect called)
  | change change => exact Or.inl (.change change)

omit [DecidableEq κ] in
theorem consistent_new (init : σ) :
    Consistent serve alter init (.new init : Shared σ κ ω ρ ε) where
  value := rfl
  linear := linearized_nil
  explains _ _ none := nomatch none

omit [DecidableEq κ] in
theorem explains_append {history : List (Event κ ω ρ ε)} {client : κ} {stage : Stage ω ρ}
    (explains : Explains history client stage) {event : Event κ ω ρ ε}
    (other : event.client? ≠ some client) : Explains (history ++ [event]) client stage := by
  cases stage with
  | called op => exact latest_append explains other
  | settled op answer => exact latest_append explains other

/-- When one client moves, the stages of the others stay explained. -/
theorem explains_move (consistent : Consistent serve alter init s) {client : κ}
    {stage : Option (Stage ω ρ)} {event : Event κ ω ρ ε} (own : event.client? = some client)
    (explained : ∀ held, stage = some held → Explains (s.history ++ [event]) client held) :
    ∀ probe held, (s.move client stage event).stage probe = some held →
      Explains (s.history ++ [event]) probe held := by
  intro probe held found
  simp only [Shared.move, Function.update_apply] at found
  split at found
  · rename_i same
    rw [same]
    exact explained held found
  · rename_i other
    refine explains_append (consistent.explains probe held found) fun same => other ?_
    exact Option.some.inj (same.symm.trans own)

omit [DecidableEq κ] in
theorem value_append (consistent : Consistent serve alter init s) (event : Event κ ω ρ ε) :
    apply serve alter s.value event = valueAfter serve alter init (s.history ++ [event]) := by
  rw [valueAfter_append_singleton, ← consistent.value]

theorem consistent_step (consistent : Consistent serve alter init s)
    (step : Step serve alter s t) : Consistent serve alter init t := by
  cases step with
  | call client op idle =>
    refine ⟨value_append consistent (.call client op),
      linearized_silent consistent.linear trivial, explains_move consistent rfl ?_⟩
    rintro _ ⟨⟩
    exact latest_new _ _ _
  | @effect client op called =>
    have own := consistent.explains _ _ called
    have linear := linearized_effect consistent.linear own
    rw [← consistent.value] at linear
    refine ⟨value_append consistent (.effect client op _), linear,
      explains_move consistent rfl ?_⟩
    rintro _ ⟨⟩
    exact latest_new _ _ _
  | @reply client op answer settled =>
    have own := consistent.explains _ _ settled
    exact ⟨value_append consistent (.reply client op answer),
      linearized_reply consistent.linear own, explains_move consistent rfl nofun⟩
  | cancel client =>
    exact ⟨value_append consistent (.cancel client),
      linearized_silent consistent.linear trivial, explains_move consistent rfl nofun⟩
  | change change =>
    refine ⟨value_append consistent (.change change),
      linearized_silent consistent.linear trivial, fun probe held found => ?_⟩
    exact explains_append (consistent.explains probe held found) nofun

end OpenSovd.Support.Linearization
