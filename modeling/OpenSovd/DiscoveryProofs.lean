import OpenSovd.Discovery
import OpenSovd.Handlers

/-! Discovery is atomic and ordered for every reader. The task holds the lock
exactly while it applies a diff, and what it has applied, is applying and has
taken from a stream add up to the stream's successful items; so a reader only
ever sees whole diffs, and a cancellation loses a diff entirely or not at all. -/
namespace OpenSovd.DiscoveryProofs
open OpenSovd.Support OpenSovd.Entity OpenSovd.Topology OpenSovd.Discovery OpenSovd.Responses
open OpenSovd.Handlers
open RwLock (Locked Answered Consistent afterBatches unfinished ReadProgram)
open TopologyState

variable {P κ ρ : Type}

/-- In a phase, the lock is held for the task exactly when a diff is half
applied, and then by that diff's operations so far. -/
def Holds : Phase P → Option (Origin P × List (TopologyOp P)) → Prop
  | .applying p diff rest, writer =>
    ∃ batch, writer = some (.diff p diff, batch) ∧ batch ++ rest = diffOps diff
  | _, writer => ∀ p diff batch, writer ≠ some (.diff p diff, batch)

/-- Every completed batch of a diff has all of the diff's operations. -/
def Whole (batches : List (Origin P × List (TopologyOp P))) : Prop :=
  ∀ p diff ops, (.diff p diff, ops) ∈ batches → ops = diffOps diff

/-- The invariant of the whole system. -/
structure Sound (providers : List (DiscoveryProvider P)) (init : TopologyState P)
    (t : System P κ ρ) : Prop where
  consistent : Consistent perform init t.lock
  holds : Holds t.phase t.lock.writer
  whole : Whole t.lock.committed
  prefixes : ∀ p, applied p t.lock.committed <+: successful providers p (t.taken p)
  accounted : t.phase ≠ .stopped → ∀ p,
    applied p t.lock.committed ++ inFlight p t.phase = successful providers p (t.taken p)

variable {providers : List (DiscoveryProvider P)} {init : TopologyState P} {t next : System P κ ρ}

/-! ### What was taken from a stream -/

theorem take_succ_of_get? {α : Type} {stream : Stream'.Seq α} {n : Nat} {item : α}
    (here : stream.get? n = some item) : stream.take (n + 1) = stream.take n ++ [item] := by
  induction n generalizing stream with
  | zero =>
    cases stream using Stream'.Seq.recOn with
    | nil => simp at here
    | cons head tail => simpa using here
  | succ n ih =>
    cases stream using Stream'.Seq.recOn with
    | nil => simp at here
    | cons head tail =>
      rw [Stream'.Seq.get?_cons_succ] at here
      rw [Stream'.Seq.take_succ_cons, Stream'.Seq.take_succ_cons, ih here, List.cons_append]

/-- Taking an item adds it if it is a diff; an error contributes nothing. -/
theorem successful_succ {taken : Nat → Nat} {p : Nat} {item : Except DiscoveryError (Diff P)}
    (here : nextItem providers taken p = some item) :
    successful providers p (taken p + 1) =
      successful providers p (taken p) ++ item.toOption.toList := by
  unfold nextItem at here
  unfold successful
  split at here
  · rename_i stream found
    simp only [take_succ_of_get? here, List.filterMap_append]
    cases item <;> rfl
  · cases here

theorem successful_of_failed {p n : Nat} {error : DiscoveryError}
    (failed : providers[p]? = some ⟨.error error⟩) : successful providers p n = [] := by
  simp [successful, failed]

/-! ### What the batches applied -/

theorem applied_append_other (p : Nat) (batches : List (Origin P × List (TopologyOp P)))
    (ops : List (TopologyOp P)) : applied p (batches ++ [(.other, ops)]) = applied p batches := by
  simp [applied]

theorem applied_append_diff (p q : Nat) (diff : Diff P)
    (batches : List (Origin P × List (TopologyOp P))) (ops : List (TopologyOp P)) :
    applied p (batches ++ [(.diff q diff, ops)]) =
      applied p batches ++ inFlight p (.locking q diff) := by
  by_cases same : q = p <;> simp [applied, inFlight, same]

theorem applied_of_take (p n : Nat) (batches : List (Origin P × List (TopologyOp P))) :
    applied p (batches.take n) <+: applied p batches :=
  (List.take_prefix n batches).filterMap _

@[simp] theorem inFlight_polling (p : Nat) : inFlight p (.polling : Phase P) = [] := rfl

/-! ### The invariant -/

theorem sound_start (topology : TopologyState P) :
    Sound providers topology (start topology : System P κ ρ) where
  consistent := RwLock.consistent_new topology
  holds _ _ _ held := nomatch held
  whole _ _ _ member := nomatch member
  prefixes p := List.nil_prefix
  accounted _ p := by
    unfold successful
    split <;> rfl

/-- At an await the lock is not held for the task. -/
theorem free_of_awaits {phase : Phase P} {writer : Option (Origin P × List (TopologyOp P))}
    (suspended : phase.Awaits) (holds : Holds phase writer) (p : Nat) (diff : Diff P)
    (batch : List (TopologyOp P)) : writer ≠ some (.diff p diff, batch) := by
  cases phase with
  | applying => cases suspended
  | stopped => cases suspended
  | _ => exact holds p diff batch

/-- The task may stop at any await. -/
theorem sound_stop (sound : Sound providers init t) (suspended : t.phase.Awaits) :
    Sound providers init { t with phase := .stopped } where
  consistent := sound.consistent
  holds := free_of_awaits suspended sound.holds
  whole := sound.whole
  prefixes := sound.prefixes
  accounted running := absurd rfl running

/-- Taking an item moves it from the stream to what is in flight. -/
theorem sound_take (sound : Sound providers init t) (here : t.phase = .polling) {p : Nat}
    {item : Except DiscoveryError (Diff P)} (found : nextItem providers t.taken p = some item)
    (phase : Phase P) (awaits : phase.Awaits)
    (moved : ∀ q, inFlight q phase = if q = p then item.toOption.toList else []) :
    Sound providers init
      { t with phase := phase, taken := Function.update t.taken p (t.taken p + 1) } := by
  have free := free_of_awaits (by rw [here]; trivial) sound.holds
  have accounted : ∀ q, applied q t.lock.committed ++ inFlight q phase =
      successful providers q (Function.update t.taken p (t.taken p + 1) q) := by
    intro q
    have before := sound.accounted (by rw [here]; nofun) q
    rw [here, inFlight_polling, List.append_nil] at before
    rw [before, moved, Function.update_apply]
    split
    · rename_i same
      rw [same, successful_succ found]
    · rw [List.append_nil]
  refine ⟨sound.consistent, ?_, sound.whole, fun q => ⟨_, accounted q⟩, fun _ => accounted⟩
  cases phase with
  | applying => cases awaits
  | _ => exact free

variable [DecidableEq κ]

theorem sound_elsewhere (sound : Sound providers init t)
    {lock : Locked (TopologyState P) (TopologyOp P) (Origin P) κ ρ} {who : Option (Origin P)}
    (foreign : ∀ p diff, who ≠ some (.diff p diff)) (step : RwLock.Step perform who t.lock lock) :
    Sound providers init { t with lock := lock } := by
  have writer : ∀ p diff batch, lock.writer = some (.diff p diff, batch) ↔
      t.lock.writer = some (.diff p diff, batch) :=
    fun p diff batch => RwLock.writer_step step (foreign p diff)
  have committed : lock.committed = t.lock.committed ∨
      ∃ ops, lock.committed = t.lock.committed ++ [(.other, ops)] := by
    rcases RwLock.committed_step step with same | ⟨owner, ops, named, grown⟩
    · exact Or.inl same
    · cases owner with
      | diff p diff => exact absurd named (foreign p diff)
      | other => exact Or.inr ⟨ops, grown⟩
  have kept : ∀ p, applied p lock.committed = applied p t.lock.committed := by
    intro p
    rcases committed with same | ⟨ops, grown⟩
    · rw [same]
    · rw [grown, applied_append_other]
  refine ⟨RwLock.consistent_step sound.consistent step, ?_, fun p diff ops member => ?_,
    fun p => ?_, fun running p => ?_⟩
  · have holds := sound.holds
    cases here : t.phase with
    | applying p diff rest =>
      rw [here] at holds
      obtain ⟨batch, held, split⟩ := holds
      exact ⟨batch, (writer p diff batch).mpr held, split⟩
    | _ =>
      rw [here] at holds
      exact fun p diff batch held => holds p diff batch ((writer p diff batch).mp held)
  · rcases committed with same | ⟨others, grown⟩
    · exact sound.whole p diff ops (same ▸ member)
    · rw [grown] at member
      rcases List.mem_append.mp member with old | new
      · exact sound.whole p diff ops old
      · cases List.mem_singleton.mp new
  · rw [kept]
    exact sound.prefixes p
  · rw [kept]
    exact sound.accounted running p

theorem sound_step (sound : Sound providers init t) (step : Discovery.Step providers t next) :
    Sound providers init next := by
  cases step with
  | elsewhere foreign step => exact sound_elsewhere sound foreign step
  | discover here more =>
    have accounted := sound.accounted (by rw [here]; nofun)
    rw [here] at accounted
    exact ⟨sound.consistent, free_of_awaits (by rw [here]; trivial) sound.holds, sound.whole,
      sound.prefixes, fun _ => accounted⟩
  | noStreams here idle => exact sound_stop sound (by rw [here]; trivial)
  | merge here busy =>
    have accounted := sound.accounted (by rw [here]; nofun)
    rw [here] at accounted
    exact ⟨sound.consistent, free_of_awaits (by rw [here]; trivial) sound.holds, sound.whole,
      sound.prefixes, fun _ => accounted⟩
  | @receive p diff here item =>
    refine sound_take sound here item _ trivial fun q => ?_
    by_cases same : p = q
    · simp [inFlight, Except.toOption, same]
    · simp [inFlight, same, Ne.symm same]
  | skip here item =>
    have stays := sound_take sound here item .polling trivial
      fun q => by simp [Except.toOption]
    rw [← here] at stays
    exact stays
  | ended here drained => exact sound_stop sound (by rw [here]; trivial)
  | @acquire p diff here free unread =>
    have accounted := sound.accounted (by rw [here]; nofun)
    rw [here] at accounted
    refine ⟨RwLock.consistent_step sound.consistent (.acquire _ free unread), ?_, sound.whole,
      sound.prefixes, fun _ => accounted⟩
    exact ⟨[], rfl, rfl⟩
  | @apply p diff op rest batch here held =>
    have accounted := sound.accounted (by rw [here]; nofun)
    have holds := sound.holds
    rw [here] at accounted holds
    refine ⟨RwLock.consistent_step sound.consistent (.write held op), ?_, sound.whole,
      sound.prefixes, fun _ => accounted⟩
    obtain ⟨batch', held', split⟩ := holds
    cases held.symm.trans held'
    exact ⟨batch ++ [op], rfl, by rw [← split]; simp⟩
  | @release p diff batch here held =>
    have accounted := sound.accounted (by rw [here]; nofun)
    have holds := sound.holds
    rw [here] at accounted holds
    obtain ⟨batch', held', complete⟩ := holds
    cases held.symm.trans held'
    rw [List.append_nil] at complete
    have grown : ∀ q, applied q (t.lock.committed ++ [(.diff p diff, batch)]) =
        successful providers q (t.taken q) := by
      intro q
      rw [applied_append_diff]
      exact accounted q
    refine ⟨RwLock.consistent_step sound.consistent (.release held), ?_, fun q other ops member => ?_,
      fun q => ⟨[], ?_⟩, fun _ q => ?_⟩
    · exact fun _ _ _ held => nomatch held
    · rcases List.mem_append.mp member with old | new
      · exact sound.whole q other ops old
      · cases List.mem_singleton.mp new
        exact complete
    · rw [List.append_nil]
      exact grown q
    · rw [inFlight_polling, List.append_nil]
      exact grown q
  | shutdown suspended => exact sound_stop sound suspended

theorem sound_of_steps (run : Steps providers (start init) t) : Sound providers init t := by
  induction run with
  | refl => exact sound_start init
  | tail _ step ih => exact sound_step ih step

/-! ### Atomicity -/

/-- What discovery promises the other users of the topology. -/
structure Atomic (providers : List (DiscoveryProvider P)) (init : TopologyState P)
    (t : System P κ ρ) : Prop where
  /-- Every answer is the handler's on whole batches. -/
  answered : ∀ given ∈ t.lock.answers, Answered perform init t.lock.committed given
  /-- Batches take effect in the order in which the lock was acquired. -/
  ordered : t.lock.committed.map Prod.fst <+: t.lock.acquired
  whole : Whole t.lock.committed
  /-- At every point, a provider's applied diffs are a prefix of its successful items. -/
  prefixes : ∀ p n, applied p (t.lock.committed.take n) <+: successful providers p (t.taken p)
  failed : ∀ p error, providers[p]? = some ⟨.error error⟩ → applied p t.lock.committed = []
  /-- Once the task has stopped, only somebody else can be in the middle of a batch. -/
  stopped : t.phase = .stopped → ∃ others : List (TopologyOp P),
    t.lock.value = others.foldl perform (afterBatches perform init t.lock.committed) ∧
      (others ≠ [] → t.lock.writer = some (.other, others))

omit [DecidableEq κ] in
theorem atomic_of_sound (sound : Sound providers init t) : Atomic providers init t where
  answered := sound.consistent.answered
  ordered := ⟨_, sound.consistent.ordered⟩
  whole := sound.whole
  prefixes p n := (applied_of_take p n t.lock.committed).trans (sound.prefixes p)
  failed p error failed := by
    have none := sound.prefixes p
    rwa [successful_of_failed failed, List.prefix_nil] at none
  stopped here := by
    refine ⟨unfinished t.lock, sound.consistent.value, fun some => ?_⟩
    have holds := sound.holds
    rw [here] at holds
    cases held : t.lock.writer with
    | none => simp [unfinished, held] at some
    | some writer =>
      obtain ⟨origin, batch⟩ := writer
      cases origin with
      | diff p diff => exact absurd held (holds p diff batch)
      | other => simp [unfinished, held]

section Handler
variable (schemas : Schemas) (base areaId : String) (query : EntitiesQuery)

/-- `area_contains` as it runs: three queries under one read guard. -/
def areaContainsProgram :
    ReadProgram (TopologyState P) (Except Error (Response Entities)) :=
  .query fun first =>
    match orEntityNotFound areaId (first.getArea areaId) with
    | .error error => .done (.error error)
    | .ok _ => .query fun second => .query fun third =>
      .done (.ok (entitiesResponse schemas query
        (componentItems base query (second.componentsOfArea areaId) ++
          appItems base query (third.appsOfArea areaId))))

theorem eval_areaContainsProgram (topo : TopologyState P) :
    (areaContainsProgram schemas base areaId query).eval topo =
      areaContains schemas base topo areaId query := by
  simp only [areaContainsProgram, ReadProgram.eval, areaContains, bind, Except.bind]
  cases orEntityNotFound areaId (topo.getArea areaId) <;> rfl

/-- While discovery runs, the members of an area are listed as of some point
between two batches. -/
theorem contains_between_batches {t : System P κ (Except Error (Response Entities))}
    (run : Steps providers (start init) t) {answer : Except Error (Response Entities)}
    (given : ⟨areaContainsProgram schemas base areaId query, answer⟩ ∈ t.lock.answers) :
    ∃ n ≤ t.lock.committed.length, answer = areaContains schemas base
      (afterBatches perform init (t.lock.committed.take n)) areaId query := by
  obtain ⟨n, inside, same⟩ := (atomic_of_sound (sound_of_steps run)).answered _ given
  exact ⟨n, inside, same.trans (eval_areaContainsProgram schemas base areaId query _)⟩

end Handler

/-- **Discovery batches are atomic and ordered for every reader**, in every
interleaving with other writers, readers and a shutdown. -/
theorem discovery_is_atomic (topology : TopologyState P)
    (run : Steps providers (start topology) t) : Atomic providers topology t :=
  atomic_of_sound (sound_of_steps run)

/-- One provider that finds `ecu`, another that does not start. -/
def ecuDiff : Diff Unit := ([], { components := [{ id := "ecu", name := "ECU" }] })

def ecuProviders : List (DiscoveryProvider Unit) :=
  [⟨.ok (.ofList [.ok ecuDiff])⟩, ⟨.error (.transport "no network")⟩]

/-- A handler that queries the topology twice. -/
def listTwice : ReadProgram (TopologyState Unit) (List String) :=
  .query fun first => .query fun second =>
    .done (first.listComponents.map Component.id ++ second.listComponents.map Component.id)

/-- `ecu` was found and announced; `phase`, the reader and the answers vary. -/
def ecuFound (phase : Phase Unit) (reader : Option (RwLock.Reading (TopologyState Unit) (List String)))
    (answers : List (RwLock.Answer (TopologyState Unit) (List String))) :
    System Unit Unit (List String) where
  lock := {
    value := after [.addComponent { id := "ecu", name := "ECU" }]
    writer := none
    reading := Function.update (fun _ => none) () reader
    acquired := [.diff 0 ecuDiff]
    committed := [(.diff 0 ecuDiff, diffOps ecuDiff)]
    answers := answers }
  phase := phase
  taken := Function.update (fun _ => 0) 0 1

private theorem ecu_committed : Steps ecuProviders (start new) (ecuFound .polling none []) := by
  have first : Steps (κ := Unit) (ρ := List String) ecuProviders (start new) _ :=
    .tail .refl (.discover rfl (by decide))
  have started := first.tail (.discover rfl (by decide))
  have merged := started.tail (.merge rfl (by simp [streams, ecuProviders, Except.toOption]))
  have item : nextItem ecuProviders (fun _ => 0) 0 = some (.ok ecuDiff) := rfl
  have received := merged.tail (.receive rfl item)
  have locked := received.tail (.acquire rfl rfl fun _ => rfl)
  exact (locked.tail (.apply rfl rfl)).tail (.release rfl rfl)

private theorem reader_step {lock : Locked (TopologyState P) (TopologyOp P) (Origin P) κ ρ}
    (step : RwLock.Step perform none t.lock lock) :
    Discovery.Step providers t { t with lock := lock } :=
  .elsewhere (by simp) step

theorem ecuFound_reached : Steps ecuProviders (start new)
    (ecuFound .stopped none [⟨listTwice, ["ecu", "ecu"]⟩]) := by
  have reading := ecu_committed.tail (reader_step (.start () listTwice rfl rfl))
  have asked := (reading.tail (reader_step (.query () rfl))).tail
    (reader_step (.query () rfl))
  have answered := asked.tail (reader_step (.answer () rfl))
  exact answered.tail (.shutdown trivial)

theorem ecuFound_atomic :
    Atomic ecuProviders new (ecuFound .stopped none [⟨listTwice, ["ecu", "ecu"]⟩]) :=
  discovery_is_atomic new ecuFound_reached

end OpenSovd.DiscoveryProofs
