import Mathlib.Logic.Relation
import OpenSovd.TopologyRuns
import OpenSovd.Support.ChangeLog

/-! The shared topology: one readers-writer lock around the state and one
broadcast channel. A write guard changes the state at once and keeps the events
until it is dropped; it flushes them in order and only then gives up the lock.
What was sent and what is still pending together replay to the registry, so a
snapshot taken while no writer holds the lock is the replay of what was sent. -/
namespace OpenSovd.TopologyEvents
open OpenSovd.Support OpenSovd.Support.ChangeLog OpenSovd.Entity OpenSovd.Topology
open OpenSovd.TopologyRuns
open TopologyState

/-- The lock's writer: its batched events, and whether its drop has begun. -/
structure Writer where
  pending : List TopologyEvent
  dropping : Bool

/-- The guarded state, everything the channel was sent, and who holds the lock. -/
structure TopologyInner (P : Type) where
  state : TopologyState P
  sent : List TopologyEvent
  writer : Option Writer
  readers : Nat

namespace TopologyInner

def new {P : Type} : TopologyInner P := ⟨.new, [], none, 0⟩

end TopologyInner

variable {P : Type}

/-- One step of the shared topology. Subscribing is no step: a receiver gets
what is sent after the point where it subscribed. -/
inductive Step : TopologyInner P → TopologyInner P → Prop where
  | write {t} (free : t.writer = none) (unread : t.readers = 0) :
      Step t { t with writer := some ⟨[], false⟩ }
  | perform {t pending} (held : t.writer = some ⟨pending, false⟩) (op : TopologyOp P) :
      Step t { t with
        state := (TopologyWriteGuard.perform ⟨t.state, pending⟩ op).state
        writer := some ⟨(TopologyWriteGuard.perform ⟨t.state, pending⟩ op).pending, false⟩ }
  | drop {t pending} (held : t.writer = some ⟨pending, false⟩) :
      Step t { t with writer := some ⟨pending, true⟩ }
  | send {t event rest} (held : t.writer = some ⟨event :: rest, true⟩) :
      Step t { t with sent := t.sent ++ [event], writer := some ⟨rest, true⟩ }
  | release {t} (held : t.writer = some ⟨[], true⟩) : Step t { t with writer := none }
  | read {t} (free : t.writer = none) : Step t { t with readers := t.readers + 1 }
  | endRead {t} (reading : 0 < t.readers) : Step t { t with readers := t.readers - 1 }

abbrev Steps : TopologyInner P → TopologyInner P → Prop := Relation.ReflTransGen Step

/-- What an event does to a consumer's set of known pairs. -/
def change : TopologyEvent → Change EntityRef
  | .added entityRef => .add entityRef
  | .removed entityRef => .erase entityRef

/-- Fold events onto a set of pairs. -/
def fold (events : List TopologyEvent) (known : Set EntityRef) : Set EntityRef :=
  replay (events.map change) known

/-! ### What a guard call does to the registry and to the batch -/

/-- The batch grows by the one event that says what happened to the registry,
or nothing happened to either. -/
def Records (before after : TopologyWriteGuard P) : Prop :=
  after = before ∨
    ∃ event, after.pending = before.pending ++ [event] ∧
      registered after.state = (change event).apply (registered before.state) ∧
      ∀ entityRef, event = .removed entityRef → entityRef ∈ registered before.state

theorem pushRemoved_records {E : Type} {guard : TopologyWriteGuard P} {entityRef : EntityRef}
    {removal : TopologyState P × Option E} (removed : Removal guard.state entityRef removal) :
    Records guard (guard.pushRemoved entityRef removal) := by
  unfold TopologyWriteGuard.pushRemoved
  rcases removed with ⟨found, member, gone⟩ | ⟨missing, same⟩
  · refine Or.inr ⟨.removed entityRef, by simp [found], gone, ?_⟩
    rintro _ ⟨⟩
    exact member
  · refine Or.inl ?_
    simp [missing, same]

theorem perform_records (guard : TopologyWriteGuard P) (op : TopologyOp P) :
    Records guard (guard.perform op) := by
  cases op with
  | addComponent component =>
    exact Or.inr ⟨_, rfl, registered_insertComponent guard.state _ _, fun _ same => nomatch same⟩
  | addApp app =>
    exact Or.inr ⟨_, rfl, registered_insertApp guard.state _ _, fun _ same => nomatch same⟩
  | addArea area =>
    exact Or.inr ⟨_, rfl, registered_insertArea guard.state _ _, fun _ same => nomatch same⟩
  | removeComponent id => exact pushRemoved_records (removeComponent_removal guard.state id)
  | removeApp id => exact pushRemoved_records (removeApp_removal guard.state id)
  | removeArea id => exact pushRemoved_records (removeArea_removal guard.state id)

/-! ### The log mirrors the registry -/

/-- Everything sent, then everything the writer still holds back. -/
def log (t : TopologyInner P) : List TopologyEvent :=
  t.sent ++ (t.writer.elim [] Writer.pending)

/-- The log replays to the registry, each of its removals is of a registered
pair, and nobody reads while a writer holds the lock. -/
structure Mirrors (t : TopologyInner P) : Prop where
  replays : fold (log t) ∅ = registered t.state
  justified : ErasesHeld ((log t).map change) ∅
  exclusive : 0 < t.readers → t.writer = none

theorem mirrors_new : Mirrors (TopologyInner.new : TopologyInner P) where
  replays := registered_new.symm
  justified := erasesHeld_nil ∅
  exclusive reading := absurd reading (Nat.lt_irrefl 0)

/-- A step that leaves both the log and the registry alone. -/
theorem mirrors_of_same {t next : TopologyInner P} (mirrors : Mirrors t)
    (sameLog : log next = log t) (sameState : next.state = t.state)
    (exclusive : 0 < next.readers → next.writer = none) : Mirrors next where
  replays := by rw [sameLog, sameState, mirrors.replays]
  justified := by rw [sameLog]; exact mirrors.justified
  exclusive := exclusive

theorem mirrors_step {t next : TopologyInner P} (mirrors : Mirrors t) (step : Step t next) :
    Mirrors next := by
  cases step with
  | write free unread =>
    exact mirrors_of_same mirrors (by simp [log, free]) rfl
      fun reading => absurd reading (by simp [unread])
  | @perform pending held op =>
    have unread : ¬ 0 < t.readers := fun reading => by simp [mirrors.exclusive reading] at held
    have whole : log t = t.sent ++ pending := by simp [log, held]
    rcases perform_records ⟨t.state, pending⟩ op with same | ⟨event, grown, changed, removes⟩
    · rw [same]
      exact mirrors_of_same mirrors (by simp [log, held]) rfl fun reading => absurd reading unread
    · refine ⟨?_, ?_, fun reading => absurd reading unread⟩
      · simp only [log, Option.elim_some, grown, fold, ← List.append_assoc, List.map_append,
          List.map_cons, List.map_nil, changed]
        rw [replay_append_singleton, ← List.map_append, ← whole]
        exact congrArg _ mirrors.replays
      · simp only [log, Option.elim_some, grown, ← List.append_assoc, List.map_append,
          List.map_cons, List.map_nil]
        rw [← List.map_append, ← whole]
        refine erasesHeld_append_singleton mirrors.justified fun key erased => ?_
        have replays : replay ((log t).map change) ∅ = registered t.state := mirrors.replays
        rw [replays]
        cases event with
        | added added => cases erased
        | removed gone =>
          cases erased
          exact removes _ rfl
  | drop held =>
    exact mirrors_of_same mirrors (by simp [log, held]) rfl
      fun reading => by simp [mirrors.exclusive reading] at held
  | send held =>
    exact mirrors_of_same mirrors (by simp [log, held]) rfl
      fun reading => by simp [mirrors.exclusive reading] at held
  | release held => exact mirrors_of_same mirrors (by simp [log, held]) rfl fun _ => rfl
  | read free => exact mirrors_of_same mirrors rfl rfl fun _ => free
  | endRead reading => exact mirrors_of_same mirrors rfl rfl fun _ => mirrors.exclusive reading

theorem mirrors_of_steps {t : TopologyInner P} (run : Steps .new t) : Mirrors t := by
  induction run with
  | refl => exact mirrors_new
  | tail _ step ih => exact mirrors_step ih step

/-- With no writer, what was sent replays to the registry. -/
theorem sent_replays {t : TopologyInner P} (mirrors : Mirrors t) (free : t.writer = none) :
    fold t.sent ∅ = registered t.state := by
  simpa [log, free] using mirrors.replays

theorem sent_grows_step {t next : TopologyInner P} (step : Step t next) :
    t.sent <+: next.sent := by
  cases step with
  | send held => exact List.prefix_append _ _
  | _ => exact List.prefix_refl _

theorem sent_grows {t next : TopologyInner P} (run : Steps t next) : t.sent <+: next.sent := by
  induction run with
  | refl => exact List.prefix_refl _
  | tail _ step ih => exact ih.trans (sent_grows_step step)

/-- Folding what was sent since a subscription onto any later snapshot gives
the registry whenever no write guard is held. -/
theorem fold_onto_snapshot {subscribed snapshot quiet : TopologyInner P}
    (start : Steps .new subscribed) (wait : Steps subscribed snapshot)
    (reading : 0 < snapshot.readers) (rest : Steps snapshot quiet) (free : quiet.writer = none) :
    fold (quiet.sent.drop subscribed.sent.length) (registered snapshot.state) =
      registered quiet.state := by
  have mirrors := mirrors_of_steps (start.trans wait)
  have mirrors' := mirrors_of_steps ((start.trans wait).trans rest)
  obtain ⟨overlap, seen⟩ := sent_grows wait
  obtain ⟨later, grown⟩ := sent_grows rest
  have since : quiet.sent.drop subscribed.sent.length = overlap ++ later := by
    rw [← grown, ← seen, List.append_assoc, List.drop_left]
  rw [since, ← sent_replays mirrors (mirrors.exclusive reading), ← sent_replays mirrors' free,
    ← grown, ← seen]
  simp only [fold, List.map_append]
  exact replay_suffix_onto_snapshot _ _ _ _

/-- A removal is only ever sent for a pair announced before it. -/
theorem removed_was_announced {t : TopologyInner P} (run : Steps .new t) {n : Nat}
    {entityRef : EntityRef} (sent : t.sent[n]? = some (.removed entityRef)) :
    entityRef ∈ fold (t.sent.take n) ∅ := by
  have justified := (mirrors_of_steps run).justified
  rw [log, List.map_append] at justified
  obtain ⟨inside, found⟩ := List.getElem?_eq_some_iff.mp sent
  have split : t.sent = t.sent.take n ++ .removed entityRef :: t.sent.drop (n + 1) := by
    rw [← found, ← List.drop_eq_getElem_cons inside, List.take_append_drop]
  have mapped := congrArg (List.map change) split
  rw [List.map_append, List.map_cons] at mapped
  exact erasesHeld_of_append justified _ entityRef _ mapped

/-- **The event stream mirrors the registry**, for every subscription, snapshot
and quiet point of every run of write guards. -/
theorem stream_mirrors_registry :
    (∀ subscribed snapshot quiet : TopologyInner P, Steps .new subscribed →
        Steps subscribed snapshot → 0 < snapshot.readers → Steps snapshot quiet →
        quiet.writer = none →
        fold (quiet.sent.drop subscribed.sent.length) (registered snapshot.state) =
          registered quiet.state) ∧
      ∀ t : TopologyInner P, Steps .new t → ∀ n entityRef,
        t.sent[n]? = some (.removed entityRef) → entityRef ∈ fold (t.sent.take n) ∅ :=
  ⟨fun _ _ _ start wait reading rest free => fold_onto_snapshot start wait reading rest free,
    fun _ run _ _ sent => removed_was_announced run sent⟩

/-- One guard that adds `ecu` and removes it again. -/
def ecuGone : TopologyInner Unit where
  state := after [.addComponent { id := "ecu", name := "ECU" }, .removeComponent "ecu"]
  sent := [.added (.component "ecu"), .removed (.component "ecu")]
  writer := none
  readers := 1

theorem ecuGone_reached : Steps .new ecuGone := by
  have opened := Relation.ReflTransGen.single (Step.write (t := .new (P := Unit)) rfl rfl)
  have added := opened.tail (Step.perform rfl (.addComponent { id := "ecu", name := "ECU" }))
  have removed := added.tail (Step.perform rfl (.removeComponent "ecu"))
  have flushed := ((removed.tail (Step.drop rfl)).tail (Step.send rfl)).tail (Step.send rfl)
  exact (flushed.tail (Step.release rfl)).tail (Step.read rfl)

theorem ecuGone_mirrored :
    fold ecuGone.sent (registered ecuGone.state) = registered ecuGone.state ∧
      EntityRef.component "ecu" ∈ fold (ecuGone.sent.take 1) ∅ :=
  ⟨stream_mirrors_registry.1 .new ecuGone ecuGone .refl ecuGone_reached Nat.one_pos .refl rfl,
    stream_mirrors_registry.2 ecuGone ecuGone_reached 1 _ rfl⟩

end OpenSovd.TopologyEvents
