import Mathlib.Algebra.BigOperators.Intervals
import OpenSovd.DiscoveryProofs
import OpenSovd.Support.Runs

/-! Discovery gets done. Unless it is shut down, the task only stops when every
stream has ended, and by then it has applied every diff of every stream once and
in order. Until then it waits for nothing but a provider whose `discover` has not
returned, streams that are pending, or the lock; a provider may keep it waiting for
good. On streams that end it takes a bounded number of steps, whatever the others
do. -/
namespace OpenSovd.DiscoveryProgress
open OpenSovd.Support OpenSovd.Support.Runs OpenSovd.Entity OpenSovd.Topology OpenSovd.Discovery
open OpenSovd.DiscoveryProofs
open RwLock (Locked)
open TopologyState

variable {P κ ρ : Type} {providers : List (DiscoveryProvider P)} {init : TopologyState P}
  {s t : System P κ ρ}

/-- Nothing is left that the task could take. -/
def Drained (providers : List (DiscoveryProvider P)) (taken : Nat → Nat) : Prop :=
  ∀ p, nextItem providers taken p = none

/-! ### What is left of a stream -/

theorem take_of_ended {α : Type} {stream : Stream'.Seq α} {n : Nat}
    (ended : stream.get? n = none) : stream.take (n + 1) = stream.take n := by
  induction n generalizing stream with
  | zero =>
    cases stream using Stream'.Seq.recOn with
    | nil => rfl
    | cons head tail => simp at ended
  | succ n ih =>
    cases stream using Stream'.Seq.recOn with
    | nil => rfl
    | cons head tail =>
      rw [Stream'.Seq.get?_cons_succ] at ended
      rw [Stream'.Seq.take_succ_cons, ih ended, Stream'.Seq.take_succ_cons]

/-- A stream that has ended has no more diffs. -/
theorem successful_of_drained {taken : Nat → Nat} {p n : Nat}
    (drained : nextItem providers taken p = none) (later : taken p ≤ n) :
    successful providers p n = successful providers p (taken p) := by
  unfold nextItem at drained
  unfold successful
  split at drained
  · rename_i stream found
    induction n, later using Nat.le_induction with
    | base => rfl
    | succ n later ih => rw [take_of_ended (Stream'.Seq.le_stable stream later drained), ih]
  · rfl

theorem nextItem_of_idle (idle : streams providers = []) (taken : Nat → Nat) :
    Drained providers taken := by
  intro p
  unfold nextItem
  split
  · rename_i stream found
    have started : stream ∈ streams providers :=
      List.mem_filterMap.mpr ⟨_, List.mem_of_getElem? found, rfl⟩
    rw [idle] at started
    cases started
  · rfl

variable [DecidableEq κ]

/-! ### Stopping -/

/-- The task only stops by itself: it has no stream, or all of them have ended. -/
def Unhindered (providers : List (DiscoveryProvider P)) (s t : System P κ ρ) : Prop :=
  Discovery.Step providers s t ∧ (t.phase = .stopped → s.phase ≠ .stopped →
    (s.phase = .starting providers.length ∧ streams providers = []) ∨
      (s.phase = .polling ∧ Drained providers s.taken))

/-- The task has applied what there was. -/
def Complete (providers : List (DiscoveryProvider P)) (t : System P κ ρ) : Prop :=
  Drained providers t.taken ∧
    ∀ p, applied p t.lock.committed = successful providers p (t.taken p)

/-- Others complete batches of their own only. -/
theorem applied_elsewhere {lock : Locked (TopologyState P) (TopologyOp P) (Origin P) κ ρ}
    {who : Option (Origin P)} (foreign : ∀ p diff, who ≠ some (.diff p diff))
    (step : RwLock.Step perform who t.lock lock) (p : Nat) :
    applied p lock.committed = applied p t.lock.committed := by
  rcases RwLock.committed_step step with same | ⟨owner, ops, named, grown⟩
  · rw [same]
  · cases owner with
    | diff q diff => exact absurd named (foreign q diff)
    | other => rw [grown, applied_append_other]

omit [DecidableEq κ] in
/-- With nothing in flight, everything taken has been applied. -/
theorem applied_of_sound (sound : Sound providers init s) (running : s.phase ≠ .stopped)
    (idle : ∀ p, inFlight p s.phase = []) (p : Nat) :
    applied p s.lock.committed = successful providers p (s.taken p) := by
  have accounted := sound.accounted running p
  rwa [idle p, List.append_nil] at accounted

/-- Once stopped, only the others take steps. -/
theorem stopped_step (step : Discovery.Step providers s t) (here : s.phase = .stopped) :
    t.taken = s.taken ∧ ∀ p, applied p t.lock.committed = applied p s.lock.committed := by
  cases step with
  | elsewhere foreign step => exact ⟨rfl, applied_elsewhere foreign step⟩
  | shutdown suspended =>
    rw [here] at suspended
    cases suspended
  | discover at_ | noStreams at_ | merge at_ | receive at_ | skip at_ | ended at_ | acquire at_
  | apply at_ | release at_ =>
    rw [here] at at_
    cases at_

theorem complete_step (sound : Sound providers init s)
    (complete : s.phase = .stopped → Complete providers s) (step : Unhindered providers s t)
    (stopped : t.phase = .stopped) : Complete providers t := by
  obtain ⟨step, cause⟩ := step
  by_cases before : s.phase = .stopped
  · obtain ⟨drained, all⟩ := complete before
    obtain ⟨taken, same⟩ := stopped_step step before
    refine ⟨by rw [taken]; exact drained, fun p => ?_⟩
    rw [same, all, taken]
  · have kept : t.taken = s.taken ∧ t.lock.committed = s.lock.committed := by
      cases step with
      | elsewhere foreign step => exact absurd stopped before
      | skip here item => exact absurd stopped before
      | receive | discover | merge | acquire | apply | release => cases stopped
      | noStreams | ended | shutdown => exact ⟨rfl, rfl⟩
    have drained : Drained providers s.taken ∧ ∀ p, inFlight p s.phase = [] := by
      rcases cause stopped before with ⟨here, idle⟩ | ⟨here, drained⟩
      · exact ⟨nextItem_of_idle idle _, fun p => by rw [here]; rfl⟩
      · exact ⟨drained, fun p => by rw [here]; rfl⟩
    refine ⟨by rw [kept.1]; exact drained.1, fun p => ?_⟩
    rw [kept.1, kept.2]
    exact applied_of_sound sound before drained.2 p

/-- A task that stopped by itself has applied everything. -/
theorem complete_of_stopped (run : Relation.ReflTransGen (Unhindered providers) (start init) t) :
    Sound providers init t ∧ (t.phase = .stopped → Complete providers t) := by
  induction run with
  | refl => exact ⟨sound_start init, nofun⟩
  | tail _ step ih =>
    exact ⟨sound_step ih.1 step.1, complete_step ih.1 ih.2 step⟩

/-! ### Going on -/

/-- The task itself has moved. -/
def Own (s t : System P κ ρ) : Prop := ¬ (t.phase = s.phase ∧ t.taken = s.taken)

omit [DecidableEq κ] in
theorem own_of_phase {next : System P κ ρ} {phase : Phase P} (here : t.phase = phase)
    (moved : next.phase ≠ phase) : Own t next :=
  fun same => moved (same.1.trans here)

/-- The lock that the task waits for is taken. -/
def Blocked (t : System P κ ρ) : Prop :=
  (∃ p diff, t.phase = .locking p diff) ∧
    (t.lock.writer ≠ none ∨ ∃ reader, t.lock.reading reader ≠ none)

/-- What has come from the providers at some moment: whose `discover` has returned,
how many items of a stream, and whether the end of it. -/
structure Arrivals where
  discovered : Nat → Prop
  items : Nat → Nat
  ended : Nat → Prop

/-- An item of the stream lies there. -/
def HasItem (providers : List (DiscoveryProvider P)) (arrivals : Arrivals) (taken : Nat → Nat)
    (p : Nat) : Prop :=
  nextItem providers taken p ≠ none ∧ taken p < arrivals.items p

/-- Every stream has shown its end. -/
def AllEnded (providers : List (DiscoveryProvider P)) (arrivals : Arrivals) (taken : Nat → Nat) :
    Prop :=
  Drained providers taken ∧
    ∀ p stream, providers[p]? = some ⟨.ok stream⟩ → arrivals.ended p

/-- The task waits for a provider to return, or for one of its streams. -/
def Waiting (providers : List (DiscoveryProvider P)) (arrivals : Arrivals) (t : System P κ ρ) :
    Prop :=
  (∃ n < providers.length, t.phase = .starting n ∧ ¬ arrivals.discovered n) ∨
    (t.phase = .polling ∧ (∀ p, ¬ HasItem providers arrivals t.taken p) ∧
      ¬ AllEnded providers arrivals t.taken)

/-- A step of the task takes only what has come. -/
def Timely (providers : List (DiscoveryProvider P)) (arrivals : Arrivals) (s t : System P κ ρ) :
    Prop :=
  (∀ n < providers.length, s.phase = .starting n → arrivals.discovered n) ∧
    (s.phase = .polling →
      (∃ p, t.taken = Function.update s.taken p (s.taken p + 1) ∧
        HasItem providers arrivals s.taken p) ∨
        (t.taken = s.taken ∧ AllEnded providers arrivals s.taken))

/-- The providers are started one by one. -/
def Awaited (providers : List (DiscoveryProvider P)) : Phase P → Prop
  | .starting n => n ≤ providers.length
  | _ => True

theorem awaited_step (awaited : Awaited providers s.phase) (step : Discovery.Step providers s t) :
    Awaited providers t.phase := by
  cases step with
  | elsewhere foreign step => exact awaited
  | discover here more => exact more
  | skip here item => exact awaited
  | _ => trivial

theorem awaited_of_steps (run : Steps providers (start init) t) : Awaited providers t.phase := by
  induction run with
  | refl => exact Nat.zero_le _
  | tail _ step ih => exact awaited_step ih step

/-- The task can take a step of its own on what has come. -/
def CanMove (providers : List (DiscoveryProvider P)) (arrivals : Arrivals) (t : System P κ ρ) :
    Prop :=
  ∃ next, Unhindered providers t next ∧ Own t next ∧ Timely providers arrivals t next

theorem unhindered_of_running {next : System P κ ρ} (step : Discovery.Step providers t next)
    (running : next.phase ≠ .stopped) : Unhindered providers t next :=
  ⟨step, fun stopped => absurd stopped running⟩

omit [DecidableEq κ] in
/-- Nothing is awaited while an item is being applied. -/
theorem timely_of_busy {arrivals : Arrivals} {next : System P κ ρ}
    (started : ∀ n, t.phase ≠ .starting n) (polled : t.phase ≠ .polling) :
    Timely providers arrivals t next :=
  ⟨fun n _ here => absurd here (started n), fun here => absurd here polled⟩

omit [DecidableEq κ] in
theorem timely_of_polling {arrivals : Arrivals} {next : System P κ ρ} (here : t.phase = .polling)
    (came : (∃ p, next.taken = Function.update t.taken p (t.taken p + 1) ∧
        HasItem providers arrivals t.taken p) ∨
      (next.taken = t.taken ∧ AllEnded providers arrivals t.taken)) :
    Timely providers arrivals t next := by
  refine ⟨fun _ _ starting => ?_, fun _ => came⟩
  cases here.symm.trans starting

variable {arrivals : Arrivals}

theorem canMove_starting {n : Nat} (here : t.phase = .starting n) (awaited : n ≤ providers.length)
    (came : n < providers.length → arrivals.discovered n) : CanMove providers arrivals t := by
  have timely (next : System P κ ρ) : Timely providers arrivals t next := by
    refine ⟨fun m more same => ?_, fun polled => by cases here.symm.trans polled⟩
    cases here.symm.trans same
    exact came more
  rcases Nat.lt_or_eq_of_le awaited with more | rfl
  · exact ⟨_, unhindered_of_running (.discover here more) nofun, own_of_phase here (by simp),
      timely _⟩
  · by_cases idle : streams providers = []
    · exact ⟨_, ⟨.noStreams here idle, fun _ _ => Or.inl ⟨here, idle⟩⟩, own_of_phase here nofun,
        timely _⟩
    · exact ⟨_, unhindered_of_running (.merge here idle) nofun, own_of_phase here nofun, timely _⟩

theorem canMove_item {p : Nat} (here : t.phase = .polling)
    (ready : HasItem providers arrivals t.taken p) : CanMove providers arrivals t := by
  obtain ⟨item, found⟩ := Option.ne_none_iff_exists'.mp ready.1
  have moved : Function.update t.taken p (t.taken p + 1) ≠ t.taken := by
    intro same
    have at_ := congrFun same p
    rw [Function.update_self] at at_
    omega
  have timely {next : System P κ ρ} (taken : next.taken = Function.update t.taken p (t.taken p + 1)) :
      Timely providers arrivals t next := timely_of_polling here (Or.inl ⟨p, taken, ready⟩)
  cases item with
  | ok diff =>
    exact ⟨_, unhindered_of_running (.receive here found) nofun, own_of_phase here nofun, timely rfl⟩
  | error error =>
    have running : t.phase ≠ .stopped := by
      rw [here]
      nofun
    exact ⟨_, unhindered_of_running (.skip here found) running, fun same => moved same.2, timely rfl⟩

theorem canMove_ended (here : t.phase = .polling) (ended : AllEnded providers arrivals t.taken) :
    CanMove providers arrivals t :=
  ⟨_, ⟨.ended here ended.1, fun _ _ => Or.inr ⟨here, ended.1⟩⟩, own_of_phase here nofun,
    timely_of_polling here (Or.inr ⟨rfl, ended⟩)⟩

/-- A task that has not stopped can go on, or waits for the lock, a provider or a
stream. -/
theorem moves_or_waits (sound : Sound providers init t) (awaited : Awaited providers t.phase)
    (running : t.phase ≠ .stopped) (arrivals : Arrivals) :
    Blocked t ∨ Waiting providers arrivals t ∨ CanMove providers arrivals t := by
  cases here : t.phase with
  | starting n =>
    rw [here] at awaited
    by_cases came : n < providers.length → arrivals.discovered n
    · exact Or.inr (Or.inr (canMove_starting here awaited came))
    · obtain ⟨more, pending⟩ := Classical.not_imp.mp came
      exact Or.inr (Or.inl (Or.inl ⟨n, more, here, pending⟩))
  | polling =>
    refine Or.inr ?_
    by_cases ended : AllEnded providers arrivals t.taken
    · exact Or.inr (canMove_ended here ended)
    by_cases ready : ∃ p, HasItem providers arrivals t.taken p
    · exact Or.inr (canMove_item here ready.choose_spec)
    · exact Or.inl (Or.inr ⟨here, not_exists.mp ready, ended⟩)
  | locking p diff =>
    by_cases free : t.lock.writer = none ∧ ∀ reader, t.lock.reading reader = none
    · exact Or.inr (Or.inr ⟨_, unhindered_of_running (.acquire here free.1 free.2) nofun,
        own_of_phase here nofun, timely_of_busy (by simp [here]) (by simp [here])⟩)
    · refine Or.inl ⟨⟨p, diff, here⟩, ?_⟩
      rcases not_and_or.mp free with held | read
      · exact Or.inl held
      · exact Or.inr (not_forall.mp read)
  | applying p diff rest =>
    refine Or.inr (Or.inr ?_)
    have holds := sound.holds
    rw [here] at holds
    obtain ⟨batch, held, _⟩ := holds
    have timely (next : System P κ ρ) : Timely providers arrivals t next :=
      timely_of_busy (by simp [here]) (by simp [here])
    cases rest with
    | nil =>
      exact ⟨_, unhindered_of_running (.release here held) nofun, own_of_phase here nofun, timely _⟩
    | cons op rest =>
      exact ⟨_, unhindered_of_running (.apply here held) nofun, own_of_phase here (by simp),
        timely _⟩
  | stopped => exact absurd here running

/-- A task that waits for the lock cannot take a step of its own. -/
theorem not_canMove_of_blocked (blocked : Blocked t) : ¬ CanMove providers arrivals t := by
  rintro ⟨next, ⟨step, cause⟩, own, _⟩
  obtain ⟨⟨p, diff, here⟩, taken⟩ := blocked
  cases step with
  | elsewhere foreign step => exact own ⟨rfl, rfl⟩
  | acquire at_ free unread =>
    rcases taken with held | ⟨reader, reads⟩
    · exact held free
    · exact reads (unread reader)
  | shutdown suspended =>
    rcases cause rfl (by simp [here]) with ⟨at_, _⟩ | ⟨at_, _⟩ <;> cases here.symm.trans at_
  | discover at_ | noStreams at_ | merge at_ | receive at_ | skip at_ | ended at_ | apply at_
  | release at_ => cases here.symm.trans at_

/-- Nor can one that waits for a provider or a stream. -/
theorem not_canMove_of_waiting (waiting : Waiting providers arrivals t) :
    ¬ CanMove providers arrivals t := by
  rintro ⟨next, _, _, discovered, came⟩
  rcases waiting with ⟨n, more, here, pending⟩ | ⟨here, empty, pending⟩
  · exact pending (discovered n more here)
  · rcases came here with ⟨p, _, ready⟩ | ⟨_, ended⟩
    · exact empty p ready
    · exact pending ended

/-! ### The work there is -/

/-- The steps that an item takes: to receive it, and for a diff to get the lock,
to make its calls and to give up the lock. -/
def itemWork : Except DiscoveryError (Diff P) → Nat
  | .ok diff => (diffOps diff).length + 3
  | .error _ => 1

def phaseWork (providers : List (DiscoveryProvider P)) : Phase P → Nat
  | .starting n => providers.length - n + 2
  | .polling => 1
  | .locking _ diff => (diffOps diff).length + 3
  | .applying _ _ rest => rest.length + 2
  | .stopped => 0

/-- The work in a stream from the item `n` to its end. -/
def streamWork (providers : List (DiscoveryProvider P)) (ends : Nat → Nat) (p n : Nat) : Nat :=
  (Finset.Ico n (ends p)).sum fun k => (nextItem providers (fun _ => k) p).elim 0 itemWork

/-- The steps the task can still take on streams that end at `ends`. -/
def work (providers : List (DiscoveryProvider P)) (ends : Nat → Nat) (phase : Phase P)
    (taken : Nat → Nat) : Nat :=
  phaseWork providers phase +
    (Finset.range providers.length).sum fun p => streamWork providers ends p (taken p)

theorem nextItem_congr (taken other : Nat → Nat) {p : Nat} (same : taken p = other p) :
    nextItem providers taken p = nextItem providers other p := by
  unfold nextItem
  rw [same]

theorem taken_lt_end {ends taken : Nat → Nat} {p : Nat} {item : Except DiscoveryError (Diff P)}
    (drained : Drained providers ends) (found : nextItem providers taken p = some item) :
    taken p < ends p := by
  by_contra past
  have ended := drained p
  unfold nextItem at found ended
  split at found
  · rename_i stream started
    simp only [started] at ended
    rw [Stream'.Seq.le_stable stream (Nat.le_of_not_lt past) ended] at found
    cases found
  · cases found

/-- Taking an item takes its work from the streams. -/
theorem work_take {ends taken : Nat → Nat} {p : Nat} {item : Except DiscoveryError (Diff P)}
    (drained : Drained providers ends) (found : nextItem providers taken p = some item) :
    ((Finset.range providers.length).sum fun q =>
        streamWork providers ends q (Function.update taken p (taken p + 1) q)) + itemWork item =
      (Finset.range providers.length).sum fun q => streamWork providers ends q (taken q) := by
  have inside : p ∈ Finset.range providers.length := by
    rw [Finset.mem_range]
    by_contra outside
    have absent : providers[p]? = none := List.getElem?_eq_none (Nat.le_of_not_lt outside)
    unfold nextItem at found
    rw [absent] at found
    cases found
  have first : streamWork providers ends p (taken p) =
      itemWork item + streamWork providers ends p (taken p + 1) := by
    have here := (nextItem_congr (fun _ => taken p) taken rfl).trans found
    unfold streamWork
    rw [Finset.sum_eq_sum_Ico_succ_bot (taken_lt_end drained found), here]
    rfl
  rw [← Finset.add_sum_erase _ _ inside, ← Finset.add_sum_erase _ _ inside, Function.update_self, first]
  have others : ((Finset.range providers.length).erase p).sum
      (fun q => streamWork providers ends q (Function.update taken p (taken p + 1) q)) =
        ((Finset.range providers.length).erase p).sum
          fun q => streamWork providers ends q (taken q) := by
    refine Finset.sum_congr rfl fun q member => ?_
    rw [Function.update_of_ne (Finset.ne_of_mem_erase member)]
  rw [others]
  omega

/-- Every step of the task is some of the work. -/
theorem work_step {ends : Nat → Nat} (drained : Drained providers ends) (step : Discovery.Step providers s t) (own : Own s t) :
    work providers ends t.phase t.taken < work providers ends s.phase s.taken := by
  cases step with
  | elsewhere foreign step => exact absurd ⟨rfl, rfl⟩ own
  | receive here found =>
    have taken := work_take drained found
    simp only [work, here, phaseWork, itemWork] at taken ⊢
    omega
  | skip here found =>
    have taken := work_take drained found
    simp only [work, itemWork] at taken ⊢
    omega
  | discover here more =>
    simp only [work, here, phaseWork]
    omega
  | apply here held =>
    simp only [work, here, phaseWork, List.length_cons]
    omega
  | release here held | acquire here held unread | merge here busy | noStreams here idle
  | ended here exhausted =>
    simp only [work, here, phaseWork]
    omega
  | shutdown suspended =>
    cases here : s.phase with
    | applying | stopped =>
      rw [here] at suspended
      cases suspended
    | _ =>
      simp only [work, phaseWork]
      omega

/-- A step, labelled with whether the task made it. -/
def Moves (providers : List (DiscoveryProvider P)) (s : System P κ ρ) (own : Bool)
    (t : System P κ ρ) : Prop :=
  Discovery.Step providers s t ∧ (own = true ↔ Own s t)

theorem steps_bounded {ends : Nat → Nat} (drained : Drained providers ends) {past : List Bool}
    (run : Labelled (Moves providers) (start init : System P κ ρ) past t) :
    past.count true + work providers ends t.phase t.taken ≤
      work providers ends (.starting 0) fun _ => 0 := by
  refine run.invariant (I := fun past t => past.count true + work providers ends t.phase t.taken ≤
    work providers ends (.starting 0) fun _ => 0) (by simp [start]) ?_
  rintro past s own t before ⟨step, label⟩
  rw [List.count_append]
  cases own with
  | true =>
    have less := work_step drained step (label.mp rfl)
    simp only [List.count_singleton_self]
    omega
  | false =>
    have same : t.phase = s.phase ∧ t.taken = s.taken :=
      not_not.mp fun own => Bool.noConfusion (label.mpr own)
    rw [same.1, same.2]
    simpa using before

/-- What the task does with its streams, in every interleaving with the other
users of the topology. -/
structure GetsDone (κ ρ : Type) [DecidableEq κ] (providers : List (DiscoveryProvider P))
    (init : TopologyState P) : Prop where
  /-- When it has stopped by itself, it has applied every diff of every stream
  once and in order. -/
  complete : ∀ t : System P κ ρ, Relation.ReflTransGen (Unhindered providers) (start init) t →
    t.phase = .stopped → ∀ p n, t.taken p ≤ n →
      applied p t.lock.committed = successful providers p n
  /-- Until then, whatever has come from the providers, it can go on without being shut
  down if it does not wait for the lock, for a provider or for its streams, and only
  then. -/
  goes_on : ∀ t : System P κ ρ, Steps providers (start init) t → t.phase ≠ .stopped →
    ∀ arrivals, CanMove providers arrivals t ↔ ¬ Blocked t ∧ ¬ Waiting providers arrivals t
  /-- On streams that end it makes a bounded number of steps. -/
  bounded : ∀ ends, Drained providers ends → ∀ (past : List Bool) (t : System P κ ρ),
    Labelled (Moves providers) (start init) past t →
      past.count true ≤ work providers ends (.starting 0) fun _ => 0

/-- **Discovery gets done.** -/
theorem discovery_gets_done (providers : List (DiscoveryProvider P)) (init : TopologyState P) :
    GetsDone κ ρ providers init where
  complete t run stopped p n later := by
    obtain ⟨drained, all⟩ := (complete_of_stopped run).2 stopped
    rw [all p, successful_of_drained (drained p) later]
  goes_on t run running arrivals := by
    refine ⟨fun moves => ⟨fun blocked => not_canMove_of_blocked blocked moves,
      fun waiting => not_canMove_of_waiting waiting moves⟩, fun ⟨free, fed⟩ => ?_⟩
    have cases_ := moves_or_waits (sound_of_steps run) (awaited_of_steps run) running arrivals
    exact (cases_.resolve_left free).resolve_left fed
  bounded ends drained past t run := by
    have total := steps_bounded drained run
    omega

end OpenSovd.DiscoveryProgress
