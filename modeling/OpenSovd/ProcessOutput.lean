import Mathlib.Data.List.Infix
import OpenSovd.Support.Runs

/-! The output of a process under test. A reader thread appends every line and
marks the end, and `wait_for` looks for a line among those it has not read yet.
Draining the lines and looking at the mark are two steps, so a line that is
appended between them is missed when the mark is set there too. -/
namespace OpenSovd.ProcessOutput
open OpenSovd.Support Runs

/-- What `wait_for` looks for. A plain string is escaped and found as it is. -/
inductive Pattern where
  | text (text : String)
  | compiled (search : String → Bool)

def Pattern.search : Pattern → String → Bool
  | .text plain, line => decide (plain.toList <:+: line.toList)
  | .compiled search, line => search line

inductive Error where
  | runtimeError
  | timeoutError
  deriving DecidableEq, Repr

/-- Where the reader thread stands: at the next line, behind an append, behind
the loop, behind the mark, or at its end. -/
inductive Reader where
  | reading
  | notifying
  | ending
  | closing
  | finished
  deriving DecidableEq, Repr

/-- Where the thread that calls `wait_for` stands: outside, before each of the
steps of the loop, or behind a call that returned or raised. -/
inductive Waiter where
  | idle
  | clearing (pattern : Pattern)
  | draining (pattern : Pattern)
  | checking (pattern : Pattern)
  | timing (pattern : Pattern)
  | waiting (pattern : Pattern)
  | returned (line : String)
  | raised (error : Error)

/-- The pattern of a call that is going on. -/
def Waiter.pattern : Waiter → Option Pattern
  | .clearing pattern | .draining pattern | .checking pattern | .timing pattern
  | .waiting pattern => some pattern
  | .idle | .returned _ | .raised _ => none

/-- The lines have been drained in this round of the loop. -/
def Waiter.drained : Waiter → Bool
  | .checking _ | .timing _ | .waiting _ => true
  | _ => false

/-- The mark has been looked at in this round, and was not set. -/
def Waiter.looked : Waiter → Bool
  | .timing _ | .waiting _ => true
  | _ => false

structure ProcessUnderTest where
  /-- Everything the process printed, as history. -/
  printed : List String
  /-- The lines in the pipe. -/
  piped : List String
  exited : Bool
  output : List String
  lineEvent : Bool
  readPos : Nat
  closed : Bool
  reader : Reader
  waiter : Waiter

/-- The reads of `wait_for` under the lock: how many lines it reads, and the
first one that matches. -/
def drain (pattern : Pattern) : List String → Nat × Option String
  | [] => (0, none)
  | line :: rest =>
    if pattern.search line then (1, some line)
    else
      let (read, found) := drain pattern rest
      (read + 1, found)

namespace ProcessUnderTest

/-- A new process; the reader thread has been started. -/
def spawn : ProcessUnderTest where
  printed := []
  piped := []
  exited := false
  output := []
  lineEvent := false
  readPos := 0
  closed := false
  reader := .reading
  waiter := .idle

/-- The next step of `_read_output`. -/
def readOutput (s : ProcessUnderTest) : ProcessUnderTest :=
  match s.reader with
  | .reading =>
    match s.piped with
    | line :: rest => { s with piped := rest, output := s.output ++ [line], reader := .notifying }
    -- An empty pipe blocks until its other end is closed.
    | [] => if s.exited then { s with reader := .ending } else s
  | .notifying => { s with lineEvent := true, reader := .reading }
  | .ending => { s with closed := true, reader := .closing }
  | .closing => { s with lineEvent := true, reader := .finished }
  | .finished => s

/-- The next step of `wait_for`. `expired` is what the clock says where it is
asked: at the deadline, and while waiting for the event. -/
def waitFor (s : ProcessUnderTest) (expired : Bool) : ProcessUnderTest :=
  match s.waiter with
  | .clearing pattern => { s with lineEvent := false, waiter := .draining pattern }
  | .draining pattern =>
    let (read, found) := drain pattern (s.output.drop s.readPos)
    { s with
      readPos := s.readPos + read
      waiter := match found with
        | some line => .returned line
        | none => .checking pattern }
  | .checking pattern =>
    { s with waiter := if s.closed then .raised .runtimeError else .timing pattern }
  | .timing pattern =>
    { s with waiter := if expired then .raised .timeoutError else .waiting pattern }
  | .waiting pattern =>
    if s.lineEvent || expired then { s with waiter := .clearing pattern } else s
  | .idle | .returned _ | .raised _ => s

end ProcessUnderTest

/-- Whose turn it is. A turn in which its party is blocked changes nothing. -/
inductive Turn where
  | prints (line : String)
  | exits
  | reader
  | calls (pattern : Pattern)
  | waiter (expired : Bool)

def step (s : ProcessUnderTest) : Turn → ProcessUnderTest
  | .prints line =>
    if s.exited then s
    else { s with printed := s.printed ++ [line], piped := s.piped ++ [line] }
  | .exits => { s with exited := true }
  | .reader => s.readOutput
  | .calls pattern =>
    match s.waiter.pattern with
    | some _ => s
    | none => { s with waiter := .clearing pattern }
  | .waiter expired => s.waitFor expired

/-! ### Missed lines -/

/-- Where `wait_for` raises that the process exited, no line that was printed
behind those it has read matches. -/
def RaisesRightly (s : ProcessUnderTest) : Prop :=
  ∀ pattern expired, s.waiter.pattern = some pattern →
    (step s (.waiter expired)).waiter = .raised .runtimeError →
    ∀ line ∈ s.printed.drop s.readPos, pattern.search line = false

/-- The reader does not set the mark while `wait_for` is between its drain and
its look at the mark and an unread line matches. -/
def ClosesInTime (s : ProcessUnderTest) (turn : Turn) : Prop :=
  turn = .reader → s.reader = .ending → ∀ pattern, s.waiter = .checking pattern →
    ∀ line ∈ s.output.drop s.readPos, pattern.search line = false

/-! ### What holds in every state -/

/-- Every printed line is in one place, and behind the loop the pipe stays empty. -/
structure Consistent (s : ProcessUnderTest) : Prop where
  lines : s.output ++ s.piped = s.printed
  read : s.readPos ≤ s.output.length
  marked : s.closed = true ↔ s.reader = .closing ∨ s.reader = .finished
  ended : s.reader = .ending ∨ s.closed = true → s.exited = true ∧ s.piped = []

theorem drain_fst_le (pattern : Pattern) (lines : List String) :
    (drain pattern lines).1 ≤ lines.length := by
  induction lines with
  | nil => exact Nat.le_refl _
  | cons line rest ih =>
    rw [drain]
    split
    · simp
    · simpa using ih

/-- Without a match all lines are read. -/
theorem drain_none {pattern : Pattern} {lines : List String}
    (missing : (drain pattern lines).2 = none) : (drain pattern lines).1 = lines.length := by
  induction lines with
  | nil => rfl
  | cons line rest ih =>
    rw [drain] at missing ⊢
    split at missing
    · cases missing
    · rename_i other
      rw [if_neg other]
      simpa using ih missing

variable {s : ProcessUnderTest}

theorem consistent_readOutput (consistent : Consistent s) : Consistent s.readOutput := by
  obtain ⟨lines, read, marked, ended⟩ := consistent
  unfold ProcessUnderTest.readOutput
  cases here : s.reader with
  | reading =>
    have unmarked : s.closed = false := by simpa [here] using marked
    cases pipe : s.piped with
    | nil =>
      by_cases exited : s.exited = true
      · rw [if_pos exited]
        exact ⟨by simpa [pipe] using lines, read, by simp [unmarked], fun _ => ⟨exited, rfl⟩⟩
      · rw [if_neg exited]
        exact ⟨lines, read, marked, ended⟩
    | cons line rest =>
      refine ⟨?_, ?_, by simp [unmarked], by simp [unmarked]⟩
      · simpa [pipe] using lines
      · simp only [List.length_append, List.length_cons, List.length_nil]
        omega
  | notifying =>
    have unmarked : s.closed = false := by simpa [here] using marked
    exact ⟨lines, read, by simp [unmarked], by simp [unmarked]⟩
  | ending => exact ⟨lines, read, by simp, fun _ => ended (.inl here)⟩
  | closing =>
    have mark : s.closed = true := marked.mpr (.inl here)
    exact ⟨lines, read, by simp [mark], fun _ => ended (.inr mark)⟩
  | finished => exact ⟨lines, read, marked, ended⟩

theorem consistent_waitFor (consistent : Consistent s) (expired : Bool) :
    Consistent (s.waitFor expired) := by
  obtain ⟨lines, read, marked, ended⟩ := consistent
  unfold ProcessUnderTest.waitFor
  cases here : s.waiter with
  | draining pattern =>
    refine ⟨lines, ?_, marked, ended⟩
    have drained := drain_fst_le pattern (s.output.drop s.readPos)
    simp only [List.length_drop] at drained
    simp only
    omega
  | waiting pattern =>
    dsimp only
    split
    · exact ⟨lines, read, marked, ended⟩
    · exact ⟨lines, read, marked, ended⟩
  | _ => exact ⟨lines, read, marked, ended⟩

theorem consistent_step (consistent : Consistent s) (turn : Turn) : Consistent (step s turn) := by
  obtain ⟨lines, read, marked, ended⟩ := consistent
  cases turn with
  | prints line =>
    rw [step]
    split
    · exact ⟨lines, read, marked, ended⟩
    · rename_i running
      refine ⟨by simp [← lines], read, marked, fun exited => ?_⟩
      exact absurd (ended exited).1 running
  | exits => exact ⟨lines, read, marked, fun exited => ⟨rfl, (ended exited).2⟩⟩
  | reader => exact consistent_readOutput ⟨lines, read, marked, ended⟩
  | calls pattern =>
    rw [step]
    split
    · exact ⟨lines, read, marked, ended⟩
    · exact ⟨lines, read, marked, ended⟩
  | waiter expired => exact consistent_waitFor ⟨lines, read, marked, ended⟩ expired

theorem consistent_spawn : Consistent .spawn where
  lines := rfl
  read := Nat.le_refl _
  marked := by simp [ProcessUnderTest.spawn]
  ended := by simp [ProcessUnderTest.spawn]

/-! ### Between the drain and the mark -/

/-- With the mark set, no unread line matches where it is looked at. -/
def InTime (s : ProcessUnderTest) : Prop :=
  ∀ pattern, s.waiter = .checking pattern → s.closed = true →
    ∀ line ∈ s.output.drop s.readPos, pattern.search line = false

/-- `wait_for` raises nowhere but at the mark. -/
theorem raises_iff (expired : Bool) {pattern : Pattern} (going : s.waiter.pattern = some pattern) :
    (step s (.waiter expired)).waiter = .raised .runtimeError ↔
      s.waiter = .checking pattern ∧ s.closed = true := by
  rw [step, ProcessUnderTest.waitFor]
  cases here : s.waiter with
  | checking other =>
    rw [here] at going
    cases going
    by_cases mark : s.closed = true
    · simp [mark]
    · simp [mark]
  | draining other =>
    dsimp only
    split <;> simp
  | timing other =>
    by_cases late : expired = true
    · simp [late]
    · simp [late]
  | waiting other =>
    dsimp only
    split <;> simp [here]
  | clearing other => simp
  | idle | returned | raised =>
    rw [here] at going
    cases going

theorem raisesRightly_iff (consistent : Consistent s) : RaisesRightly s ↔ InTime s := by
  have whole (mark : s.closed = true) : s.output = s.printed := by
    simpa [(consistent.ended (.inr mark)).2] using consistent.lines
  constructor
  · intro right pattern here mark
    have going : s.waiter.pattern = some pattern := by rw [here]; rfl
    rw [whole mark]
    exact right pattern false going ((raises_iff false going).mpr ⟨here, mark⟩)
  · intro inTime pattern expired going raised
    obtain ⟨here, mark⟩ := (raises_iff expired going).mp raised
    rw [← whole mark]
    exact inTime pattern here mark

theorem inTime_readOutput_iff (consistent : Consistent s) (inTime : InTime s) :
    InTime s.readOutput ↔ ClosesInTime s .reader := by
  have keeps {t : ProcessUnderTest} (elsewhere : s.reader ≠ .ending) (kept : InTime t) :
      InTime t ↔ ClosesInTime s .reader :=
    iff_of_true kept fun _ here => absurd here elsewhere
  unfold ProcessUnderTest.readOutput
  cases here : s.reader with
  | reading =>
    have unmarked : s.closed = false := by simpa [here] using consistent.marked
    have open_ {t : ProcessUnderTest} (same : t.closed = s.closed) : InTime t := by
      intro pattern _ mark
      rw [same, unmarked] at mark
      cases mark
    dsimp only
    split
    · exact keeps (by simp [here]) (open_ rfl)
    · split
      · exact keeps (by simp [here]) (open_ rfl)
      · exact keeps (by simp [here]) inTime
  | notifying => exact keeps (by simp [here]) inTime
  | ending =>
    constructor
    · intro after _ _ pattern checking
      exact after pattern checking rfl
    · intro closes pattern checking _
      exact closes rfl here pattern checking
  | closing => exact keeps (by simp [here]) inTime
  | finished => exact keeps (by simp [here]) inTime

theorem inTime_waitFor (consistent : Consistent s) (expired : Bool) : InTime (s.waitFor expired) := by
  intro pattern checking mark
  unfold ProcessUnderTest.waitFor at checking mark ⊢
  cases here : s.waiter with
  | draining other =>
    rw [here] at checking
    dsimp only at checking ⊢
    cases found : (drain other (s.output.drop s.readPos)).2 with
    | some line => simp [found] at checking
    | none =>
      have all := drain_none found
      simp only [List.length_drop] at all
      have end_ : s.readPos + (drain other (s.output.drop s.readPos)).1 = s.output.length := by
        have bound := consistent.read
        omega
      rw [end_, List.drop_length]
      exact nofun
  | checking other =>
    simp only [here] at checking
    split at checking <;> cases checking
  | timing other =>
    simp only [here] at checking
    split at checking <;> cases checking
  | waiting other =>
    simp only [here] at checking
    split at checking
    · cases checking
    · rw [here] at checking
      cases checking
  | clearing | idle | returned | raised => simp [here] at checking

/-- A turn keeps a state in time exactly when it closes in time. -/
theorem inTime_step_iff (consistent : Consistent s) (inTime : InTime s) (turn : Turn) :
    InTime (step s turn) ↔ ClosesInTime s turn := by
  cases turn with
  | reader => exact inTime_readOutput_iff consistent inTime
  | waiter expired => exact iff_of_true (inTime_waitFor consistent expired) nofun
  | prints line =>
    refine iff_of_true ?_ nofun
    rw [step]
    split
    · exact inTime
    · exact inTime
  | exits => exact iff_of_true inTime nofun
  | calls pattern =>
    refine iff_of_true ?_ nofun
    rw [step]
    split
    · exact inTime
    · exact nofun

/-! ### The event -/

/-- What is appended behind the drain, and a mark set behind the look at it, are
announced: the event is set or about to be. -/
structure Announced (s : ProcessUnderTest) : Prop where
  lines : s.waiter.drained = true → s.readPos < s.output.length →
    s.lineEvent = true ∨ s.reader = .notifying
  mark : s.waiter.looked = true → s.closed = true → s.lineEvent = true ∨ s.reader = .closing

theorem announced_readOutput (consistent : Consistent s) (announced : Announced s) :
    Announced s.readOutput := by
  obtain ⟨lines, mark⟩ := announced
  unfold ProcessUnderTest.readOutput
  cases here : s.reader with
  | reading =>
    have unmarked : s.closed = false := by simpa [here] using consistent.marked
    simp only [here, reduceCtorEq, or_false] at lines
    dsimp only
    split
    · exact ⟨fun _ _ => .inr rfl, by simp [unmarked]⟩
    · split
      · exact ⟨fun drained unread => .inl (lines drained unread), by simp [unmarked]⟩
      · exact ⟨fun drained unread => .inl (lines drained unread), by simp [unmarked]⟩
  | notifying => exact ⟨fun _ _ => .inl rfl, fun _ _ => .inl rfl⟩
  | ending =>
    simp only [here, reduceCtorEq, or_false] at lines
    exact ⟨fun drained unread => .inl (lines drained unread), fun _ _ => .inr rfl⟩
  | closing => exact ⟨fun _ _ => .inl rfl, fun _ _ => .inl rfl⟩
  | finished => exact ⟨lines, mark⟩

theorem announced_waitFor (consistent : Consistent s) (announced : Announced s) (expired : Bool) :
    Announced (s.waitFor expired) := by
  obtain ⟨lines, mark⟩ := announced
  unfold ProcessUnderTest.waitFor
  cases here : s.waiter with
  | clearing pattern => exact ⟨nofun, nofun⟩
  | draining pattern =>
    dsimp only
    cases found : (drain pattern (s.output.drop s.readPos)).2 with
    | some line => exact ⟨nofun, nofun⟩
    | none =>
      have all := drain_none found
      simp only [List.length_drop] at all
      refine ⟨fun _ unread => ?_, nofun⟩
      have bound := consistent.read
      dsimp only at unread
      omega
  | checking pattern =>
    rw [here] at lines
    dsimp only
    by_cases marked : s.closed = true
    · rw [if_pos marked]
      exact ⟨nofun, nofun⟩
    · rw [if_neg marked]
      exact ⟨fun _ unread => lines rfl unread, fun _ marked' => absurd marked' marked⟩
  | timing pattern =>
    rw [here] at lines mark
    dsimp only
    by_cases late : expired = true
    · rw [if_pos late]
      exact ⟨nofun, nofun⟩
    · rw [if_neg late]
      exact ⟨fun _ unread => lines rfl unread, fun _ marked => mark rfl marked⟩
  | waiting pattern =>
    dsimp only
    split
    · exact ⟨nofun, nofun⟩
    · exact ⟨lines, mark⟩
  | idle | returned | raised => exact ⟨lines, mark⟩

theorem announced_step (consistent : Consistent s) (announced : Announced s) (turn : Turn) :
    Announced (step s turn) := by
  cases turn with
  | prints line =>
    rw [step]
    split
    · exact announced
    · exact ⟨announced.lines, announced.mark⟩
  | exits => exact ⟨announced.lines, announced.mark⟩
  | reader => exact announced_readOutput consistent announced
  | calls pattern =>
    rw [step]
    split
    · exact announced
    · exact ⟨nofun, nofun⟩
  | waiter expired => exact announced_waitFor consistent announced expired

/-! ### Every run -/

theorem consistent_of_run (turns : List Turn) : Consistent (turns.foldl step .spawn) :=
  invariant_of_run consistent_spawn (fun _ turn consistent => consistent_step consistent turn) turns

/-- No wake-up is lost: where `wait_for` waits and there is an unread line or
the mark, the event is set or the reader's next turn sets it. -/
theorem wakeup_not_lost (turns : List Turn) {pattern : Pattern}
    (asleep : (turns.foldl step .spawn).waiter = .waiting pattern)
    (news : (turns.foldl step .spawn).readPos < (turns.foldl step .spawn).output.length ∨
      (turns.foldl step .spawn).closed = true) :
    (turns.foldl step .spawn).lineEvent = true ∨
      (step (turns.foldl step .spawn) .reader).lineEvent = true := by
  have kept : Consistent (turns.foldl step .spawn) ∧ Announced (turns.foldl step .spawn) := by
    refine invariant_of_run (I := fun s => Consistent s ∧ Announced s)
      ⟨consistent_spawn, nofun, nofun⟩ (fun s turn held => ?_) turns
    exact ⟨consistent_step held.1 turn, announced_step held.1 held.2 turn⟩
  obtain ⟨lines, mark⟩ := kept.2
  rw [asleep] at lines mark
  rcases news with unread | marked
  · refine (lines rfl unread).imp_right fun notifying => ?_
    simp [step, ProcessUnderTest.readOutput, notifying]
  · refine (mark rfl marked).imp_right fun closing => ?_
    simp [step, ProcessUnderTest.readOutput, closing]

/-- **`wait_for` misses no line** in a run exactly when the reader closes in
time in all of its steps. -/
theorem never_misses_iff (turns : List Turn) :
    Throughout step .spawn RaisesRightly turns ↔ Guarded step .spawn ClosesInTime turns := by
  constructor
  · intro right done turn rest shape
    have before := (raisesRightly_iff (consistent_of_run done)).mp (right done _ shape)
    have later := right (done ++ [turn]) rest (by simp [shape])
    rw [raisesRightly_iff (consistent_of_run _), foldl_append_singleton] at later
    exact (inTime_step_iff (consistent_of_run done) before turn).mp later
  · intro guarded done rest shape
    have kept : Throughout step .spawn (fun s => Consistent s ∧ InTime s) turns := by
      refine guarded_throughout ⟨consistent_spawn, nofun⟩ (fun s turn held closes => ?_) guarded
      exact ⟨consistent_step held.1 turn, (inTime_step_iff held.1 held.2 turn).mpr closes⟩
    obtain ⟨consistent, inTime⟩ := kept done rest shape
    exact (raisesRightly_iff consistent).mpr inTime

/-- The banner is printed and the output closed between the drain and the look
at the mark. -/
def bannerBetween : List Turn :=
  [.calls (.text "ready"), .waiter false, .waiter false, .prints "ready\n", .exits, .reader, .reader,
    .reader, .reader]

/-- The banner is in the output, unread, and `wait_for` raises. -/
theorem banner_between_missed :
    (bannerBetween.foldl step .spawn).output = ["ready\n"] ∧
      (bannerBetween.foldl step .spawn).readPos = 0 ∧
      (step (bannerBetween.foldl step .spawn) (.waiter false)).waiter = .raised .runtimeError ∧
      ¬ ∀ turns, Throughout step .spawn RaisesRightly turns := by
  refine ⟨rfl, rfl, rfl, fun always => ?_⟩
  have right := always bannerBetween bannerBetween [] (by simp)
  have missed := right (.text "ready") false rfl rfl "ready\n" (.head _)
  have found : (Pattern.text "ready").search "ready\n" = true := by
    rw [Pattern.search]
    exact decide_eq_true ⟨[], ['\n'], by simp⟩
  rw [found] at missed
  cases missed

end OpenSovd.ProcessOutput
