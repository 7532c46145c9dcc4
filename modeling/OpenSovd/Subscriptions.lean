import OpenSovd.Support.Broadcast
import OpenSovd.TopologyEvents

/-! Subscribers of the topology. All receivers read one channel that keeps a
bounded number of events, so a slow one loses some and is told how many. Whatever
the interleaving of writers, readers and receivers, nothing is repeated,
reordered or lost without notice, and a snapshot repairs the mirror of a receiver
that has lost something. -/
namespace OpenSovd.Subscriptions
open OpenSovd.Support OpenSovd.Support.ChangeLog OpenSovd.Support.Broadcast OpenSovd.Entity
open OpenSovd.Topology OpenSovd.TopologyRuns OpenSovd.TopologyEvents
open TopologyState

/-- A channel keeps at least as many events as it was asked to. -/
structure Channel (capacity : Nat) where
  retained : Nat
  enough : capacity ≤ retained

/-- The shared topology and its receivers. -/
structure Followed (P κ : Type) where
  inner : TopologyInner P
  receivers : κ → Option (Receiver TopologyEvent)

variable {P κ : Type} [DecidableEq κ] {capacity : Nat}

def start : Followed P κ := ⟨.new, fun _ => none⟩

/-- A step of the topology, a new subscription or a call of a receiver. A receiver
that is dropped only takes no more steps. -/
inductive Step (channel : Channel capacity) : Followed P κ → Followed P κ → Prop where
  | topology {t inner} (step : TopologyEvents.Step t.inner inner) :
      Step channel t { t with inner := inner }
  | subscribe {t} (k : κ) (fresh : t.receivers k = none) :
      Step channel t { t with
        receivers := Function.update t.receivers k (some (subscribe t.inner.sent)) }
  | recv {t k receiver next} (held : t.receivers k = some receiver)
      (returned : receiver.recv channel.retained t.inner.sent = some next) :
      Step channel t { t with receivers := Function.update t.receivers k (some next) }

abbrev Steps (channel : Channel capacity) : Followed P κ → Followed P κ → Prop :=
  Relation.ReflTransGen (Step channel)

/-- The events mirror the registry, and every receiver accounts for its own. -/
structure Consistent (channel : Channel capacity) (t : Followed P κ) : Prop where
  mirrors : Mirrors t.inner
  accounted : ∀ k receiver, t.receivers k = some receiver →
    receiver.Accounted channel.retained t.inner.sent

variable {channel : Channel capacity} {s t next : Followed P κ} {k : κ}
  {seen receiver : Receiver TopologyEvent}

omit [DecidableEq κ] in
theorem consistent_start : Consistent channel (start : Followed P κ) where
  mirrors := mirrors_new
  accounted _ _ held := nomatch held

theorem sent_grows_step (step : Step channel s t) : s.inner.sent <+: t.inner.sent := by
  cases step with
  | topology step => exact TopologyEvents.sent_grows_step step
  | _ => exact List.prefix_refl _

theorem sent_grows (run : Steps channel s t) : s.inner.sent <+: t.inner.sent := by
  induction run with
  | refl => exact List.prefix_refl _
  | tail _ step ih => exact ih.trans (sent_grows_step step)

theorem consistent_step (consistent : Consistent channel s) (step : Step channel s t) :
    Consistent channel t := by
  obtain ⟨more, grown⟩ := sent_grows_step step
  cases step with
  | topology step =>
    refine ⟨mirrors_step consistent.mirrors step, fun k receiver held => ?_⟩
    rw [← grown]
    exact accounted_sent (consistent.accounted k receiver held)
  | subscribe k fresh =>
    refine ⟨consistent.mirrors, fun j receiver held => ?_⟩
    simp only [Function.update_apply] at held
    split at held
    · cases held
      exact accounted_subscribe s.inner.sent
    · exact consistent.accounted j receiver held
  | @recv k before after held returned =>
    refine ⟨consistent.mirrors, fun j receiver here => ?_⟩
    simp only [Function.update_apply] at here
    split at here
    · cases here
      exact accounted_recv (consistent.accounted k before held) returned
    · exact consistent.accounted j receiver here

theorem consistent_of_steps (run : Steps channel start t) : Consistent channel t := by
  induction run with
  | refl => exact consistent_start
  | tail _ step ih => exact consistent_step ih step

/-! ### One receiver over time -/

theorem keeps_step (step : Step channel s t) (held : s.receivers k = some seen) :
    ∃ receiver, t.receivers k = some receiver ∧ receiver.joined = seen.joined ∧
      seen.passed <+: receiver.passed := by
  cases step with
  | topology step => exact ⟨seen, held, rfl, List.prefix_refl _⟩
  | subscribe j fresh =>
    have other : k ≠ j := by
      rintro rfl
      rw [held] at fresh
      cases fresh
    exact ⟨seen, (Function.update_of_ne other ..).trans held, rfl, List.prefix_refl _⟩
  | @recv j before after here returned =>
    by_cases same : k = j
    · subst same
      cases held.symm.trans here
      obtain ⟨step, grown, joined, _⟩ := recv_cases returned
      exact ⟨after, Function.update_self .., joined, step :: [], grown.symm⟩
    · exact ⟨seen, (Function.update_of_ne same ..).trans held, rfl, List.prefix_refl _⟩

theorem keeps (run : Steps channel s t) (held : s.receivers k = some seen) :
    ∃ receiver, t.receivers k = some receiver ∧ receiver.joined = seen.joined ∧
      seen.passed <+: receiver.passed := by
  induction run with
  | refl => exact ⟨seen, held, rfl, List.prefix_refl _⟩
  | tail _ step ih =>
    obtain ⟨middle, here, joined, grown⟩ := ih
    obtain ⟨receiver, there, joined', grown'⟩ := keeps_step step here
    exact ⟨receiver, there, joined'.trans joined, grown.trans grown'⟩

omit [DecidableEq κ] in
/-- What was passed since an earlier state is the stream from there on. -/
theorem stream_since {more : List (Passed TopologyEvent)} (before : Consistent channel s)
    (after : Consistent channel t) (sent : s.inner.sent <+: t.inner.sent)
    (held : s.receivers k = some seen) (here : t.receivers k = some receiver)
    (joined : receiver.joined = seen.joined) (grown : seen.passed ++ more = receiver.passed) :
    stream more = (t.inner.sent.take receiver.next).drop seen.next := by
  have early := before.accounted k seen held
  have late := after.accounted k receiver here
  obtain ⟨later, split⟩ := sent
  have start : s.inner.sent.take seen.next = t.inner.sent.take seen.next := by
    rw [← split, List.take_append_of_le_length early.inside]
  have whole : (t.inner.sent.take seen.next).drop seen.joined ++ stream more =
      (t.inner.sent.take receiver.next).drop seen.joined := by
    rw [← start, ← early.passed, ← joined, ← late.passed, ← grown, stream_append]
  have reached : seen.next ≤ receiver.next := by
    have lengths := congrArg List.length whole
    have inside := late.inside
    have started := late.started
    have total := congrArg List.length split
    have short := early.inside
    simp only [List.length_append, List.length_drop, List.length_take] at lengths total
    omega
  have cut : t.inner.sent.take receiver.next =
      t.inner.sent.take seen.next ++ (t.inner.sent.take receiver.next).drop seen.next := by
    have front : (t.inner.sent.take receiver.next).take seen.next = t.inner.sent.take seen.next := by
      rw [List.take_take, Nat.min_eq_left reached]
    rw [← front, List.take_append_drop]
  rw [cut, List.drop_append_of_le_length] at whole
  · exact List.append_cancel_left whole
  · have started := early.started
    have inside := late.inside
    rw [List.length_take]
    omega

omit [DecidableEq κ] in
/-- The stream from a point before a snapshot on brings the snapshot up to date. -/
theorem fold_stream (before : Consistent channel s) (after : Consistent channel t)
    (sent : s.inner.sent <+: t.inner.sent) (reading : 0 < s.inner.readers)
    (free : t.inner.writer = none) {n : Nat} (inside : n ≤ s.inner.sent.length) :
    fold (t.inner.sent.drop n) (registered s.inner.state) = registered t.inner.state := by
  obtain ⟨later, split⟩ := sent
  rw [← sent_replays before.mirrors (before.mirrors.exclusive reading),
    ← sent_replays after.mirrors free, ← split, List.drop_append_of_le_length inside]
  have cut := List.take_append_drop n s.inner.sent
  have onto := replay_suffix_onto_snapshot ((s.inner.sent.take n).map change)
    ((s.inner.sent.drop n).map change) (later.map change) ∅
  simpa only [fold, ← List.map_append, cut] using onto

/-! ### What a subscriber can rely on -/

/-- What a receiver got past since it saw a snapshot. -/
def since (seen receiver : Receiver TopologyEvent) : List (Passed TopologyEvent) :=
  receiver.passed.drop seen.passed.length

/-- The state of the topology was read after the receiver subscribed, and
since then the receiver has read everything while no writer holds the lock. -/
structure CaughtUp (channel : Channel capacity) (snapshot t : Followed P κ) (k : κ)
    (seen receiver : Receiver TopologyEvent) : Prop where
  reached : Steps channel start snapshot
  later : Steps channel snapshot t
  subscribed : snapshot.receivers k = some seen
  reading : 0 < snapshot.inner.readers
  free : t.inner.writer = none
  drained : receiver.next = t.inner.sent.length

/-- What holds of a receiver in every state. -/
structure Informed (channel : Channel capacity) (t : Followed P κ) (k : κ)
    (receiver : Receiver TopologyEvent) : Prop where
  /-- The events it received and those it was told to have lost are the stream
  since it subscribed. -/
  accounted : stream receiver.passed = (t.inner.sent.take receiver.next).drop receiver.joined
  /-- Nothing is lost while no more events are waiting than the capacity. -/
  prompt : receiver.backlog ≤ capacity → Lossless receiver.passed
  /-- Folded onto a snapshot, the received events are right about every pair whose
  lost events were all followed by a received one. -/
  current : ∀ snapshot seen, CaughtUp channel snapshot t k seen receiver →
    ∀ probe, Current change probe (since seen receiver) →
      (probe ∈ fold (received (since seen receiver)) (registered snapshot.inner.state) ↔
        probe ∈ registered t.inner.state)
  /-- A snapshot after the last loss repairs the mirror. -/
  repaired : ∀ snapshot seen, CaughtUp channel snapshot t k seen receiver →
    Lossless (since seen receiver) →
      fold (received (since seen receiver)) (registered snapshot.inner.state) =
        registered t.inner.state

theorem current_of_caughtUp {snapshot : Followed P κ} (held : t.receivers k = some receiver)
    (caught : CaughtUp channel snapshot t k seen receiver) {probe : EntityRef}
    (current : Current change probe (since seen receiver)) :
    probe ∈ fold (received (since seen receiver)) (registered snapshot.inner.state) ↔
      probe ∈ registered t.inner.state := by
  have before := consistent_of_steps caught.reached
  have after := consistent_of_steps (caught.reached.trans caught.later)
  obtain ⟨here, there, joined, more, grown⟩ := keeps caught.later caught.subscribed
  cases held.symm.trans there
  have since_eq : since seen receiver = more := by
    rw [since, ← grown, List.drop_left]
  rw [since_eq] at current ⊢
  have passed := stream_since before after (sent_grows caught.later) caught.subscribed held joined
    grown
  rw [caught.drained, List.take_length] at passed
  have whole := fold_stream before after (sent_grows caught.later) caught.reading caught.free
    (before.accounted k seen caught.subscribed).inside
  rw [← passed] at whole
  rw [← whole]
  exact mem_replay_received current (Or.inr Iff.rfl)

/-- **Subscribers stay informed**, in every state of every interleaving of writers,
readers and receivers. -/
theorem subscribers_stay_informed (channel : Channel capacity) (t : Followed P κ)
    (run : Steps channel start t) (k : κ) (receiver : Receiver TopologyEvent)
    (held : t.receivers k = some receiver) : Informed channel t k receiver where
  accounted := ((consistent_of_steps run).accounted k receiver held).passed
  prompt within :=
    ((consistent_of_steps run).accounted k receiver held).lossless.mpr (within.trans channel.enough)
  current _ _ caught _ current := current_of_caughtUp held caught current
  repaired _ _ caught lossless := by
    ext probe
    exact current_of_caughtUp held caught (current_of_lossless lossless)

/-- Two components were added while the receiver waited. -/
def twoAdded (readers : Nat) (receiver : Receiver TopologyEvent) : Followed Unit Unit where
  inner := {
    state := after [.addComponent { id := "ecu", name := "ECU" },
      .addComponent { id := "hpc", name := "HPC" }]
    sent := [.added (.component "ecu"), .added (.component "hpc")]
    writer := none
    readers := readers }
  receivers := fun _ => some receiver

/-- The channel has only kept the second event. -/
def lagging : Receiver TopologyEvent := ⟨0, 1, [.skipped [.added (.component "ecu")]], 2⟩

/-- The second event was read as well. -/
def repaired : Receiver TopologyEvent :=
  ⟨0, 2, [.skipped [.added (.component "ecu")], .received (.added (.component "hpc"))], 2⟩

def keepsOne : Channel 1 := ⟨1, Nat.le_refl 1⟩

theorem recv_twoAdded {readers : Nat} {before after : Receiver TopologyEvent}
    (returned : before.recv 1 [.added (.component "ecu"), .added (.component "hpc")] = some after) :
    Steps keepsOne (twoAdded readers before) (twoAdded readers after) := by
  have received : Steps keepsOne (twoAdded readers before) _ :=
    .single (.recv (rfl : (twoAdded readers before).receivers () = _) returned)
  have same : Function.update (twoAdded readers before).receivers () (some after) =
      (twoAdded readers after).receivers := funext fun _ => rfl
  rwa [same] at received

theorem lagging_reached : Steps keepsOne start (twoAdded 0 lagging) := by
  have joined : Steps (P := Unit) keepsOne start _ := .single (.subscribe () rfl)
  have opened := joined.tail (.topology (.write rfl rfl))
  have first := opened.tail (.topology (.perform rfl (.addComponent { id := "ecu", name := "ECU" })))
  have second := first.tail (.topology (.perform rfl (.addComponent { id := "hpc", name := "HPC" })))
  have sent := ((second.tail (.topology (.drop rfl))).tail (.topology (.send rfl))).tail
    (.topology (.send rfl))
  have waiting : Steps keepsOne start (twoAdded 0 (subscribe [])) :=
    sent.tail (.topology (.release rfl))
  exact waiting.trans (recv_twoAdded rfl)

/-- The registry is read after the loss, and then the rest of the events. -/
theorem repaired_caughtUp :
    CaughtUp keepsOne (twoAdded 1 lagging) (twoAdded 1 repaired) () lagging repaired where
  reached := lagging_reached.tail (.topology (.read rfl))
  later := recv_twoAdded rfl
  subscribed := rfl
  reading := Nat.one_pos
  free := rfl
  drained := rfl

/-- The receiver has lost the ECU, and the snapshot brings it back. -/
theorem lagging_informed :
    Informed keepsOne (twoAdded 1 repaired) () repaired ∧
      fold (received (since lagging repaired)) (registered (twoAdded 1 lagging).inner.state) =
        registered (twoAdded 1 repaired).inner.state ∧
      ¬ Lossless repaired.passed := by
  have informed := subscribers_stay_informed _ _
    (repaired_caughtUp.reached.trans repaired_caughtUp.later) () repaired rfl
  refine ⟨informed, informed.repaired _ _ repaired_caughtUp ?_, fun lossless => ?_⟩
  · intro values lost
    cases List.mem_singleton.mp lost
  · exact lossless _ (.head _)

end OpenSovd.Subscriptions
