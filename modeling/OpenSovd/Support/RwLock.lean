import Mathlib.Logic.Relation
import Mathlib.Logic.Function.Basic

/-! A value behind a readers-writer lock. A writer changes the value one
operation at a time while it holds the lock, and a reader looks at the value
as often as its program asks. The lock keeps, as history only, who acquired it
for writing, the batches of operations that were completed and the answers the
readers gave: every answer is the program's answer on whole batches. -/
namespace OpenSovd.Support.RwLock

/-- What a reader computes: it queries the value and goes on from what it saw. -/
inductive ReadProgram (σ ρ : Type) where
  | done (answer : ρ)
  | query (next : σ → ReadProgram σ ρ)

/-- The answer when every query sees the same value. -/
def ReadProgram.eval {σ ρ : Type} : ReadProgram σ ρ → σ → ρ
  | .done answer, _ => answer
  | .query next, value => (next value).eval value

/-- A reader that holds the lock: its program, and what is left of it. -/
structure Reading (σ ρ : Type) where
  program : ReadProgram σ ρ
  rest : ReadProgram σ ρ

structure Answer (σ ρ : Type) where
  program : ReadProgram σ ρ
  answer : ρ

/-- The value, the writer with the operations it has applied so far, the
readers, and the history. -/
structure Locked (σ ω ι κ ρ : Type) where
  value : σ
  writer : Option (ι × List ω)
  reading : κ → Option (Reading σ ρ)
  acquired : List ι
  committed : List (ι × List ω)
  answers : List (Answer σ ρ)

variable {σ ω ι κ ρ : Type}

namespace Locked

def new (value : σ) : Locked σ ω ι κ ρ := ⟨value, none, fun _ => none, [], [], []⟩

def acquire (t : Locked σ ω ι κ ρ) (owner : ι) : Locked σ ω ι κ ρ :=
  { t with writer := some (owner, []), acquired := t.acquired ++ [owner] }

def write (apply : σ → ω → σ) (t : Locked σ ω ι κ ρ) (owner : ι) (batch : List ω) (op : ω) :
    Locked σ ω ι κ ρ :=
  { t with value := apply t.value op, writer := some (owner, batch ++ [op]) }

def release (t : Locked σ ω ι κ ρ) (owner : ι) (batch : List ω) : Locked σ ω ι κ ρ :=
  { t with writer := none, committed := t.committed ++ [(owner, batch)] }

variable [DecidableEq κ]

def read (t : Locked σ ω ι κ ρ) (reader : κ) (state : Option (Reading σ ρ)) : Locked σ ω ι κ ρ :=
  { t with reading := Function.update t.reading reader state }

end Locked

open Locked

/-- The value after whole batches, one after the other. -/
def afterBatches (apply : σ → ω → σ) (init : σ) (batches : List (ι × List ω)) : σ :=
  batches.foldl (fun value batch => batch.2.foldl apply value) init

/-- The operations of the batch that is not complete yet. -/
def unfinished (t : Locked σ ω ι κ ρ) : List ω := t.writer.elim [] Prod.snd

/-- The writers in the order of their batches, the current one last. -/
def writers (t : Locked σ ω ι κ ρ) : List ι :=
  t.committed.map Prod.fst ++ t.writer.elim [] fun held => [held.1]

/-- The answer is the program's on some prefix of the completed batches. -/
def Answered (apply : σ → ω → σ) (init : σ) (batches : List (ι × List ω))
    (given : Answer σ ρ) : Prop :=
  ∃ n ≤ batches.length, given.answer = given.program.eval (afterBatches apply init (batches.take n))

/-- Nobody reads a half-written value, and the history explains the rest. -/
structure Consistent (apply : σ → ω → σ) (init : σ) (t : Locked σ ω ι κ ρ) : Prop where
  value : t.value = (unfinished t).foldl apply (afterBatches apply init t.committed)
  exclusive : ∀ reader state, t.reading reader = some state → t.writer = none
  resumes : ∀ reader state, t.reading reader = some state →
    state.program.eval t.value = state.rest.eval t.value
  answered : ∀ given ∈ t.answers, Answered apply init t.committed given
  ordered : writers t = t.acquired

variable {apply : σ → ω → σ} {init : σ} {t next : Locked σ ω ι κ ρ}

theorem consistent_new (init : σ) : Consistent apply init (.new init : Locked σ ω ι κ ρ) where
  value := rfl
  exclusive _ _ _ := rfl
  resumes _ _ reading := nomatch reading
  answered _ given := nomatch given
  ordered := rfl

theorem value_of_free (consistent : Consistent apply init t) (free : t.writer = none) :
    t.value = afterBatches apply init t.committed := by
  rw [consistent.value, unfinished, free]
  rfl

theorem nobody_reads (consistent : Consistent apply init t) {held : ι × List ω}
    (writing : t.writer = some held) (reader : κ) : t.reading reader = none := by
  cases busy : t.reading reader with
  | none => rfl
  | some state => simp [consistent.exclusive reader state busy] at writing

theorem afterBatches_append_singleton (batches : List (ι × List ω)) (last : ι × List ω) :
    afterBatches apply init (batches ++ [last]) =
      last.2.foldl apply (afterBatches apply init batches) := by
  simp [afterBatches]

theorem answered_mono {batches : List (ι × List ω)} {given : Answer σ ρ} (last : ι × List ω)
    (answered : Answered apply init batches given) :
    Answered apply init (batches ++ [last]) given := by
  obtain ⟨n, inside, same⟩ := answered
  refine ⟨n, by simp; omega, ?_⟩
  rwa [List.take_append_of_le_length inside]

theorem answered_now (consistent : Consistent apply init t) (free : t.writer = none)
    (program : ReadProgram σ ρ) :
    Answered apply init t.committed ⟨program, program.eval t.value⟩ := by
  refine ⟨t.committed.length, Nat.le_refl _, ?_⟩
  rw [List.take_length, ← value_of_free consistent free]

variable [DecidableEq κ]

/-- A step of the lock, labelled with the writer that makes it, if any. -/
inductive Step (apply : σ → ω → σ) : Option ι → Locked σ ω ι κ ρ → Locked σ ω ι κ ρ → Prop where
  | acquire {lock} (owner : ι) (free : lock.writer = none) (unread : ∀ reader, lock.reading reader = none) :
      Step apply (some owner) lock (lock.acquire owner)
  | write {lock owner batch} (held : lock.writer = some (owner, batch)) (op : ω) :
      Step apply (some owner) lock (lock.write apply owner batch op)
  | release {lock owner batch} (held : lock.writer = some (owner, batch)) :
      Step apply (some owner) lock (lock.release owner batch)
  | start {lock} (reader : κ) (program : ReadProgram σ ρ) (free : lock.writer = none)
      (idle : lock.reading reader = none) :
      Step apply none lock (lock.read reader (some ⟨program, program⟩))
  | query {lock program rest} (reader : κ)
      (asks : lock.reading reader = some ⟨program, .query rest⟩) :
      Step apply none lock (lock.read reader (some ⟨program, rest lock.value⟩))
  | answer {lock program answer} (reader : κ)
      (ends : lock.reading reader = some ⟨program, .done answer⟩) :
      Step apply none lock
        { lock.read reader none with answers := lock.answers ++ [⟨program, answer⟩] }
  | abandon {lock} (reader : κ) : Step apply none lock (lock.read reader none)

/-- Changing one reader keeps the lock consistent when the new state resumes
to the same answer. -/
theorem consistent_read (consistent : Consistent apply init t) (reader : κ)
    (state : Option (Reading σ ρ)) (free : ∀ held, state = some held → t.writer = none)
    (resumes : ∀ held, state = some held → held.program.eval t.value = held.rest.eval t.value) :
    Consistent apply init (t.read reader state) where
  value := consistent.value
  exclusive probe held reading := by
    simp only [Locked.read, Function.update_apply] at reading
    split at reading
    · exact free held reading
    · exact consistent.exclusive probe held reading
  resumes probe held reading := by
    simp only [Locked.read, Function.update_apply] at reading
    split at reading
    · exact resumes held reading
    · exact consistent.resumes probe held reading
  answered := consistent.answered
  ordered := consistent.ordered

theorem consistent_step {who : Option ι} (consistent : Consistent apply init t)
    (step : Step apply who t next) : Consistent apply init next := by
  cases step with
  | acquire owner free unread =>
    refine ⟨?_, fun reader state reading => ?_, fun reader state reading => ?_,
      consistent.answered, ?_⟩
    · have whole := value_of_free consistent free
      exact whole
    · cases (unread reader).symm.trans reading
    · cases (unread reader).symm.trans reading
    · simp [writers, Locked.acquire, ← consistent.ordered, free]
  | write held op =>
    have idle := nobody_reads consistent held
    refine ⟨?_, fun reader state reading => ?_, fun reader state reading => ?_,
      consistent.answered, ?_⟩
    · simp only [Locked.write, unfinished, Option.elim_some, List.foldl_append, List.foldl_cons,
        List.foldl_nil]
      rw [consistent.value, unfinished, held]
      rfl
    · cases (idle reader).symm.trans reading
    · cases (idle reader).symm.trans reading
    · simp [writers, Locked.write, ← consistent.ordered, held]
  | release held =>
    have idle := nobody_reads consistent held
    refine ⟨?_, fun reader state reading => ?_, fun reader state reading => ?_,
      fun given member => answered_mono _ (consistent.answered given member), ?_⟩
    · simp only [Locked.release, unfinished, Option.elim_none, List.foldl_nil,
        afterBatches_append_singleton]
      rw [consistent.value, unfinished, held]
      rfl
    · cases (idle reader).symm.trans reading
    · cases (idle reader).symm.trans reading
    · simp [writers, Locked.release, ← consistent.ordered, held]
  | start reader program free idle =>
    refine consistent_read consistent reader _ (fun _ _ => free) ?_
    rintro _ ⟨⟩
    rfl
  | query reader asks =>
    refine consistent_read consistent reader _ (fun _ _ => consistent.exclusive _ _ asks) ?_
    rintro _ ⟨⟩
    have same := consistent.resumes _ _ asks
    exact same
  | @answer _ program answer reader ends =>
    have closed := consistent_read consistent reader none (fun _ none => nomatch none)
      (fun _ none => nomatch none)
    refine ⟨closed.value, closed.exclusive, closed.resumes, fun given member => ?_, closed.ordered⟩
    rcases List.mem_append.mp member with old | new
    · exact consistent.answered given old
    · cases List.mem_singleton.mp new
      have same : answer = program.eval t.value := (consistent.resumes _ _ ends).symm
      rw [same]
      exact answered_now consistent (consistent.exclusive _ _ ends) program
  | abandon reader =>
    exact consistent_read consistent reader none (fun _ none => nomatch none)
      (fun _ none => nomatch none)

/-- A step of one writer does not give the lock to another one. -/
theorem writer_step {who : Option ι} (step : Step apply who t next) {owner : ι} {batch : List ω}
    (foreign : who ≠ some owner) :
    next.writer = some (owner, batch) ↔ t.writer = some (owner, batch) := by
  cases step with
  | acquire other free unread =>
    have differs : other ≠ owner := fun same => foreign (congrArg some same)
    simp [Locked.acquire, free, differs]
  | @write _ other _ held op =>
    have differs : other ≠ owner := fun same => foreign (congrArg some same)
    simp [Locked.write, held, differs]
  | @release _ other _ held =>
    have differs : other ≠ owner := fun same => foreign (congrArg some same)
    simp [Locked.release, held, differs]
  | _ => exact Iff.rfl

/-- Only a release completes a batch, and it is the batch of its own writer. -/
theorem committed_step {who : Option ι} (step : Step apply who t next) :
    next.committed = t.committed ∨
      ∃ owner batch, who = some owner ∧ next.committed = t.committed ++ [(owner, batch)] := by
  cases step with
  | @release _ owner batch held => exact Or.inr ⟨owner, batch, rfl, rfl⟩
  | _ => exact Or.inl rfl

end OpenSovd.Support.RwLock
