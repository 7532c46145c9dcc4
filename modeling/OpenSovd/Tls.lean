import OpenSovd.Support.Ledger
import OpenSovd.Support.Runs

/-! The TLS listener: `accept` hands every TCP connection to a task of its own
that holds a permit until it ends, and returns the completed handshakes from a
bounded channel. Connections are numbered in the order in which they arrive. The
tasks and the server take their steps in any order. -/
namespace OpenSovd.Tls
open OpenSovd.Support Runs

def maxPendingHandshakes : Nat := 256

/-- Where the server stands: outside `accept`, at the `select!`, in the pause
after an accept error, or done with the listener. -/
inductive Server where
  | outside
  | selecting
  | sleeping
  | dropped
  deriving DecidableEq, Repr

/-- The listener with the tasks it spawned, and as history what became of the
connections. -/
structure TlsListener where
  /-- The free permits of `semaphore`. -/
  permits : Nat
  /-- The tasks in `acceptor.accept`. -/
  handshaking : List Nat
  /-- The tasks in `tx.send`. -/
  sending : List Nat
  /-- The tasks that are through and still hold their permit. -/
  ending : List Nat
  /-- The channel between `done_tx` and `done_rx`, the oldest entry first. -/
  done : List Nat
  server : Server
  /-- How many TCP connections arrived. -/
  accepted : Nat
  /-- What `accept` returned. -/
  delivered : List Nat
  failed : List Nat
  timedOut : List Nat
  /-- Dropped because no permit was free. -/
  refused : List Nat
  /-- Dropped with the channel. -/
  lost : List Nat

namespace TlsListener

def wrap : TlsListener where
  permits := maxPendingHandshakes
  handshaking := []
  sending := []
  ending := []
  done := []
  server := .outside
  accepted := 0
  delivered := []
  failed := []
  timedOut := []
  refused := []
  lost := []

end TlsListener

inductive Event where
  | call
  | cancel
  | tcpAccepted
  | tcpError
  | slept
  | recv
  | handshakeDone (connection : Nat)
  | handshakeFailed (connection : Nat)
  | handshakeTimedOut (connection : Nat)
  | sent (connection : Nat)
  | sendFailed (connection : Nat)
  | taskEnded (connection : Nat)
  | dropListener
  deriving DecidableEq, Repr

/-- One step of the server or of one of the tasks. -/
inductive Step : TlsListener → Event → TlsListener → Prop where
  | call {t} (here : t.server = .outside) : Step t .call { t with server := .selecting }
  | cancel {t} (here : t.server = .selecting ∨ t.server = .sleeping) :
      Step t .cancel { t with server := .outside }
  | spawn {t} (n : Nat) (here : t.server = .selecting) (free : t.permits = n + 1) :
      Step t .tcpAccepted { t with
        permits := n, accepted := t.accepted + 1, handshaking := t.handshaking ++ [t.accepted] }
  | refuse {t} (here : t.server = .selecting) (full : t.permits = 0) :
      Step t .tcpAccepted { t with
        accepted := t.accepted + 1, refused := t.refused ++ [t.accepted] }
  | tcpError {t} (here : t.server = .selecting) : Step t .tcpError { t with server := .sleeping }
  | slept {t} (here : t.server = .sleeping) : Step t .slept { t with server := .selecting }
  | recv {t} (c : Nat) (rest : List Nat) (here : t.server = .selecting) (ready : t.done = c :: rest) :
      Step t .recv { t with server := .outside, done := rest, delivered := t.delivered ++ [c] }
  | handshakeDone {t} (c : Nat) (live : c ∈ t.handshaking) :
      Step t (.handshakeDone c) { t with
        handshaking := t.handshaking.erase c, sending := t.sending ++ [c] }
  | handshakeFailed {t} (c : Nat) (live : c ∈ t.handshaking) :
      Step t (.handshakeFailed c) { t with
        handshaking := t.handshaking.erase c, ending := t.ending ++ [c], failed := t.failed ++ [c] }
  | handshakeTimedOut {t} (c : Nat) (live : c ∈ t.handshaking) :
      Step t (.handshakeTimedOut c) { t with
        handshaking := t.handshaking.erase c, ending := t.ending ++ [c]
        timedOut := t.timedOut ++ [c] }
  | sent {t} (c : Nat) (live : c ∈ t.sending) (listening : t.server ≠ .dropped)
      (room : t.done.length < maxPendingHandshakes) :
      Step t (.sent c) { t with
        sending := t.sending.erase c, ending := t.ending ++ [c], done := t.done ++ [c] }
  -- The receiver is gone, so `tx.send` gives the pair back and the task drops it.
  | sendFailed {t} (c : Nat) (live : c ∈ t.sending) (gone : t.server = .dropped) :
      Step t (.sendFailed c) { t with
        sending := t.sending.erase c, ending := t.ending ++ [c], lost := t.lost ++ [c] }
  | taskEnded {t} (c : Nat) (live : c ∈ t.ending) :
      Step t (.taskEnded c) { t with ending := t.ending.erase c, permits := t.permits + 1 }
  | dropListener {t} (here : t.server = .outside) :
      Step t .dropListener { t with server := .dropped, done := [], lost := t.lost ++ t.done }

/-! ### Where a connection stands -/

inductive Stage where
  | handshaking
  | waiting
  | queued
  | delivered
  | failed
  | timedOut
  | refused
  | lost
  deriving DecidableEq, Repr

namespace Stage

def all : List Stage :=
  [.handshaking, .waiting, .queued, .delivered, .failed, .timedOut, .refused, .lost]

theorem mem_all (stage : Stage) : stage ∈ all := by cases stage <;> decide

theorem all_nodup : all.Nodup := by decide

/-- The stages past a completed handshake. -/
def Completed : Stage → Prop
  | .waiting | .queued | .delivered | .lost => True
  | .handshaking | .failed | .timedOut | .refused => False

end Stage

/-- The connections at each stage. -/
def TlsListener.book (t : TlsListener) : Stage → List Nat
  | .handshaking => t.handshaking
  | .waiting => t.sending
  | .queued => t.done
  | .delivered => t.delivered
  | .failed => t.failed
  | .timedOut => t.timedOut
  | .refused => t.refused
  | .lost => t.lost

/-- What a run leaves: the bounds, every connection in one place, and the
handshakes that completed either still on their way or returned. -/
structure Conserves (past : List Event) (t : TlsListener) : Prop where
  permits : t.permits + (t.handshaking.length + t.sending.length + t.ending.length) = 256
  tasks : t.handshaking.length + t.sending.length + t.ending.length ≤ 256
  channel : t.done.length ≤ 256
  inFlight : t.handshaking.length + t.sending.length + t.done.length ≤ 512
  accepted : t.accepted = past.count .tcpAccepted
  somewhere : ∀ c, c < t.accepted ↔ ∃ stage, c ∈ t.book stage
  nowhereElse : ∀ c, c < t.accepted → ∃! stage, c ∈ t.book stage
  once : ∀ stage, (t.book stage).Nodup
  handshaken : ∀ c ∈ t.delivered, .handshakeDone c ∈ past
  kept : t.server ≠ .dropped → ∀ c, .handshakeDone c ∈ past →
    c ∈ t.sending ∨ c ∈ t.done ∨ c ∈ t.delivered
  living : t.server ≠ .dropped → t.lost = []

/-! ### What one step does to the books -/

/-- The only changes there are: nothing moves, a new connection enters, a
handshake completes, or connections move on without one completing. -/
inductive Change (t t' : TlsListener) : Event → Prop where
  | stays {event} (quiet : event ≠ .tcpAccepted) (unchanged : ∀ c, event ≠ .handshakeDone c)
      (same : t'.book = t.book) (accepted : t'.accepted = t.accepted) : Change t t' event
  | enters (stage : Stage) (outside : ¬ stage.Completed)
      (enters : Ledger.Enters t.book t'.book [t.accepted] stage)
      (accepted : t'.accepted = t.accepted + 1) : Change t t' .tcpAccepted
  | completes (c : Nat) (moves : Ledger.Moves t.book t'.book [c] .handshaking .waiting)
      (accepted : t'.accepted = t.accepted) : Change t t' (.handshakeDone c)
  | moves {event} (moved : List Nat) (source target : Stage) (quiet : event ≠ .tcpAccepted)
      (unchanged : ∀ c, event ≠ .handshakeDone c)
      (moves : Ledger.Moves t.book t'.book moved source target)
      (side : source.Completed ↔ target.Completed) (accepted : t'.accepted = t.accepted) :
      Change t t' event

variable {t t' : TlsListener} {event : Event} {past : List Event}

theorem change_of_step (step : Step t event t') : Change t t' event := by
  cases step with
  | call | cancel | tcpError | slept | taskEnded =>
    exact .stays nofun nofun rfl rfl
  | spawn n here free =>
    refine .enters .handshaking id ⟨.refl _, fun other apart => ?_⟩ rfl
    cases other <;> first | rfl | contradiction
  | refuse here full =>
    refine .enters .refused id ⟨.refl _, fun other apart => ?_⟩ rfl
    cases other <;> first | rfl | contradiction
  | recv c rest here ready =>
    refine .moves [c] .queued .delivered nofun nofun
      ⟨nofun, .of_eq ready, .refl _, fun other _ _ => ?_⟩ .rfl rfl
    cases other <;> first | rfl | contradiction
  | handshakeDone c live =>
    refine .completes c ⟨nofun, List.perm_cons_erase live, .refl _, fun other _ _ => ?_⟩ rfl
    cases other <;> first | rfl | contradiction
  | handshakeFailed c live =>
    refine .moves [c] .handshaking .failed nofun nofun
      ⟨nofun, List.perm_cons_erase live, .refl _, fun other _ _ => ?_⟩ .rfl rfl
    cases other <;> first | rfl | contradiction
  | handshakeTimedOut c live =>
    refine .moves [c] .handshaking .timedOut nofun nofun
      ⟨nofun, List.perm_cons_erase live, .refl _, fun other _ _ => ?_⟩ .rfl rfl
    cases other <;> first | rfl | contradiction
  | sent c live listening room =>
    refine .moves [c] .waiting .queued nofun nofun
      ⟨nofun, List.perm_cons_erase live, .refl _, fun other _ _ => ?_⟩ .rfl rfl
    cases other <;> first | rfl | contradiction
  | sendFailed c live gone =>
    refine .moves [c] .waiting .lost nofun nofun
      ⟨nofun, List.perm_cons_erase live, .refl _, fun other _ _ => ?_⟩ .rfl rfl
    cases other <;> first | rfl | contradiction
  | dropListener here =>
    refine .moves t.done .queued .lost nofun nofun
      ⟨nofun, .of_eq (List.append_nil _).symm, .refl _, fun other _ _ => ?_⟩ .rfl rfl
    cases other <;> first | rfl | contradiction

/-! ### Every run -/

theorem book_wrap (stage : Stage) : TlsListener.wrap.book stage = [] := by cases stage <;> rfl

/-- The connections that arrived are in the books, each in one place. -/
theorem accounts_of_run (run : Labelled Step .wrap past t) :
    Ledger.Accounts Stage.all t.book (List.range t.accepted) := by
  refine Labelled.invariant (I := fun _ t => Ledger.Accounts Stage.all t.book (List.range t.accepted))
    ?_ ?_ run
  · exact .of_eq rfl
  · intro past s event t accounts step
    cases change_of_step step with
    | stays _ _ same accepted => rwa [same, accepted]
    | enters stage _ enters accepted =>
      rw [accepted, List.range_succ]
      exact Ledger.accounts_of_enters accounts Stage.mem_all Stage.all_nodup enters
    | completes c moves accepted =>
      rw [accepted]
      exact Ledger.accounts_of_moves accounts Stage.mem_all Stage.all_nodup moves
    | moves moved source target _ _ moves _ accepted =>
      rw [accepted]
      exact Ledger.accounts_of_moves accounts Stage.mem_all Stage.all_nodup moves

theorem accepted_of_run (run : Labelled Step .wrap past t) :
    t.accepted = past.count .tcpAccepted := by
  refine Labelled.invariant (I := fun past t => t.accepted = past.count .tcpAccepted) rfl ?_ run
  intro past s event t counted step
  rw [List.count_append, List.count_singleton]
  cases change_of_step step with
  | stays quiet _ _ accepted => simp [accepted, counted, quiet]
  | enters _ _ _ accepted => simp [accepted, counted]
  | completes c _ accepted => simp [accepted, counted]
  | moves _ _ _ quiet _ _ _ accepted => simp [accepted, counted, quiet]

/-- The handshakes that completed are the connections past one. -/
theorem completed_of_run (run : Labelled Step .wrap past t) (c : Nat) :
    (∃ stage : Stage, stage.Completed ∧ c ∈ t.book stage) ↔ .handshakeDone c ∈ past := by
  refine Labelled.invariant (I := fun past t =>
    (∃ stage : Stage, stage.Completed ∧ c ∈ t.book stage) ↔ .handshakeDone c ∈ past) ?_ ?_ run
  · simp [book_wrap]
  · intro past s event t known step
    rw [List.mem_append, List.mem_singleton, ← known]
    cases change_of_step step with
    | stays _ unchanged same _ => simp [same, (unchanged c).symm]
    | enters stage outside enters _ => simp [Ledger.mem_side_of_enters enters outside]
    | completes d moves _ =>
      rw [Ledger.mem_side_of_crossing moves id trivial, List.mem_singleton,
        Event.handshakeDone.injEq, or_comm]
    | moves moved source target _ unchanged moves side _ =>
      simp [Ledger.mem_side_of_moves moves side, (unchanged c).symm]

/-- The permits and the room in the channel. -/
structure Bounded (t : TlsListener) : Prop where
  permits : t.permits + (t.handshaking.length + t.sending.length + t.ending.length) =
    maxPendingHandshakes
  channel : t.done.length ≤ maxPendingHandshakes

theorem bounded_step (bounded : Bounded t) (step : Step t event t') : Bounded t' := by
  obtain ⟨permits, channel⟩ := bounded
  cases step with
  | call | cancel | tcpError | slept | refuse => exact ⟨permits, channel⟩
  | spawn n here free => exact ⟨by simp; omega, channel⟩
  | recv c rest here ready =>
    rw [ready, List.length_cons] at channel
    exact ⟨permits, by simp; omega⟩
  | handshakeDone c live | handshakeFailed c live | handshakeTimedOut c live =>
    have some := List.length_pos_of_mem live
    have fewer := List.length_erase_of_mem live
    exact ⟨by simp; omega, channel⟩
  | sent c live listening room =>
    have some := List.length_pos_of_mem live
    have fewer := List.length_erase_of_mem live
    exact ⟨by simp; omega, by simp; omega⟩
  | sendFailed c live gone =>
    have some := List.length_pos_of_mem live
    have fewer := List.length_erase_of_mem live
    exact ⟨by simp; omega, channel⟩
  | taskEnded c live =>
    have some := List.length_pos_of_mem live
    have fewer := List.length_erase_of_mem live
    exact ⟨by simp; omega, channel⟩
  | dropListener here => exact ⟨permits, by simp⟩

theorem bounded_of_run (run : Labelled Step .wrap past t) : Bounded t :=
  Labelled.invariant (I := fun _ t => Bounded t) ⟨rfl, by decide⟩
    (fun _ _ _ _ bounded step => bounded_step bounded step) run

/-- Nothing is lost while the server keeps the listener. -/
theorem living_of_run (run : Labelled Step .wrap past t) (alive : t.server ≠ .dropped) :
    t.lost = [] := by
  revert alive
  refine Labelled.invariant (I := fun _ t => t.server ≠ .dropped → t.lost = []) (fun _ => rfl) ?_ run
  intro past s event t kept step alive
  cases step with
  | call here | spawn _ here _ | refuse here _ | tcpError here | slept here | recv _ _ here _ =>
    exact kept (by simp [here])
  | cancel here => exact kept (by rcases here with here | here <;> simp [here])
  | handshakeDone | handshakeFailed | handshakeTimedOut | sent | taskEnded => exact kept alive
  | sendFailed c live gone => exact absurd gone alive
  | dropListener here => exact absurd rfl alive

/-- **The accept loop conserves connections**, whatever arrives and in whatever
order the server and the tasks take their steps. -/
theorem accept_loop_conserves_connections (run : Labelled Step .wrap past t) : Conserves past t := by
  have accounts := accounts_of_run run
  obtain ⟨permits, channel⟩ := bounded_of_run run
  have once := List.nodup_range (n := t.accepted)
  unfold maxPendingHandshakes at permits channel
  refine ⟨permits, by omega, channel, by omega, accepted_of_run run, ?_, ?_, ?_, ?_, ?_, ?_⟩
  · intro c
    rw [← List.mem_range]
    exact Ledger.mem_items_iff accounts Stage.mem_all
  · intro c arrived
    exact Ledger.existsUnique_stage accounts Stage.mem_all once (List.mem_range.mpr arrived)
  · exact Ledger.nodup_stage accounts Stage.mem_all once
  · intro c delivered
    exact (completed_of_run run c).mp ⟨.delivered, trivial, delivered⟩
  · intro alive c completed
    obtain ⟨stage, through, member⟩ := (completed_of_run run c).mpr completed
    cases stage with
    | waiting => exact Or.inl member
    | queued => exact Or.inr (Or.inl member)
    | delivered => exact Or.inr (Or.inr member)
    | lost =>
      rw [TlsListener.book, living_of_run run alive] at member
      cases member
    | handshaking | failed | timedOut | refused => cases through
  · exact living_of_run run

/-- One connection whose handshake completes and one that fails. -/
def oneOfTwo : List Event :=
  [.call, .tcpAccepted, .tcpAccepted, .handshakeDone 1, .handshakeFailed 0, .sent 1, .taskEnded 1,
    .recv]

theorem one_of_two_is_delivered :
    ∃ t, Labelled Step .wrap oneOfTwo t ∧ t.delivered = [1] ∧ Conserves oneOfTwo t := by
  have wrapped : Labelled Step .wrap [] .wrap := .start
  have called := wrapped.snoc (Step.call rfl)
  have first := called.snoc (Step.spawn 255 rfl rfl)
  have second := first.snoc (Step.spawn 254 rfl rfl)
  have completed := second.snoc (Step.handshakeDone 1 (by decide))
  have failed := completed.snoc (Step.handshakeFailed 0 (by decide))
  have sent := failed.snoc (Step.sent 1 (by decide) (by decide) (by decide))
  have ended := sent.snoc (Step.taskEnded 1 (by decide))
  have run := ended.snoc (Step.recv 1 [] rfl rfl)
  exact ⟨_, run, rfl, accept_loop_conserves_connections run⟩

end OpenSovd.Tls
