import OpenSovd.Support.Linearization

/-! A shared value behind a network. A call's request travels to the server, takes
its turn there, and its answer travels back; either may be lost, the server may
drop what it is doing, and the caller may stop waiting at any time. Seen from the
callers the value is still served one operation at a time: once for a call that
returns, and at most once for one that fails, though perhaps only later. -/
namespace OpenSovd.Support.RemoteObject
open OpenSovd.Support.Linearization

/-- Where a call is. What was lost already had its answer, or had none yet. -/
inductive Transit (ρ : Type) where
  | request
  | serving
  | answer (answer : ρ)
  | lost (answer : Option ρ)

inductive Outcome (ρ : Type) where
  | pending
  | returned (answer : ρ)
  | failed

structure Flight (ω ρ : Type) where
  op : ω
  transit : Transit ρ
  outcome : Outcome ρ

variable {σ κ ω ρ ε : Type}

/-- The server, the calls that were made, and the history as the callers have it:
their calls and what has come back, with the effects and changes at the server. -/
structure Remote (σ κ ω ρ ε : Type) where
  server : Shared σ κ ω ρ ε
  flights : κ → Option (Flight ω ρ)
  history : List (Event κ ω ρ ε)

def Remote.new (value : σ) : Remote σ κ ω ρ ε := ⟨.new value, fun _ => none, []⟩

/-- The answer that an operation has at the server. -/
def answerOf : Option (Stage ω ρ) → Option ρ
  | some (.settled _ answer) => some answer
  | _ => none

section Stepping
variable [DecidableEq κ]

def Remote.fly (s : Remote σ κ ω ρ ε) (call : κ) (flight : Flight ω ρ) : Remote σ κ ω ρ ε :=
  { s with flights := Function.update s.flights call (some flight) }

variable (serve : σ → ω → σ × ρ) (alter : σ → ε → σ)

inductive Step : Remote σ κ ω ρ ε → Remote σ κ ω ρ ε → Prop where
  | send {s} (call : κ) (op : ω) (fresh : s.flights call = none) :
      Step s { s.fly call ⟨op, .request, .pending⟩ with history := s.history ++ [.call call op] }
  | deliver {s call op outcome} (sent : s.flights call = some ⟨op, .request, outcome⟩) :
      Step s { s.fly call ⟨op, .serving, outcome⟩ with
        server := s.server.move call (some (.called op)) (.call call op) }
  | serve {s server} (step : Internal serve alter s.server server) :
      Step s { s with
        server
        history := s.history ++ server.history.drop s.server.history.length }
  | reply {s call op outcome answer} (serving : s.flights call = some ⟨op, .serving, outcome⟩)
      (settled : s.server.stage call = some (.settled op answer)) :
      Step s { s.fly call ⟨op, .answer answer, outcome⟩ with
        server := s.server.move call none (.reply call op answer) }
  | drop {s call op outcome} (serving : s.flights call = some ⟨op, .serving, outcome⟩) :
      Step s { s.fly call ⟨op, .lost (answerOf (s.server.stage call)), outcome⟩ with
        server := s.server.move call none (.cancel call) }
  | loseRequest {s call op outcome} (sent : s.flights call = some ⟨op, .request, outcome⟩) :
      Step s (s.fly call ⟨op, .lost none, outcome⟩)
  | loseAnswer {s call op outcome answer}
      (sent : s.flights call = some ⟨op, .answer answer, outcome⟩) :
      Step s (s.fly call ⟨op, .lost (some answer), outcome⟩)
  | receive {s call op answer} (sent : s.flights call = some ⟨op, .answer answer, .pending⟩) :
      Step s { s.fly call ⟨op, .answer answer, .returned answer⟩ with
        history := s.history ++ [.reply call op answer] }
  | fail {s call op transit} (pending : s.flights call = some ⟨op, transit, .pending⟩) :
      Step s (s.fly call ⟨op, transit, .failed⟩)

end Stepping

/-! ### As the callers see it -/

/-- The answer that a call's effect had. -/
def settledBy (stage : Option (Stage ω ρ)) : Transit ρ → Option ρ
  | .request => none
  | .serving => answerOf stage
  | .answer answer => some answer
  | .lost answer => answer

/-- A call that has not returned may still take effect, or has. -/
def seen (flight : Option (Flight ω ρ)) (stage : Option (Stage ω ρ)) : Option (Stage ω ρ) :=
  match flight with
  | none => none
  | some ⟨_, _, .returned _⟩ => none
  | some ⟨op, transit, _⟩ =>
    match settledBy stage transit with
    | none => some (.called op)
    | some answer => some (.settled op answer)

def callers (s : Remote σ κ ω ρ ε) : Shared σ κ ω ρ ε :=
  ⟨s.server.value, fun call => seen (s.flights call) (s.server.stage call), s.history⟩

def opOf : Stage ω ρ → ω
  | .called op | .settled op _ => op

/-- A call is at the server while it is being served, and has what it returned. -/
structure Fits (flight : Option (Flight ω ρ)) (stage : Option (Stage ω ρ)) : Prop where
  serving : ∀ {op outcome}, flight = some ⟨op, .serving, outcome⟩ →
    ∃ held, stage = some held ∧ opOf held = op
  elsewhere : ∀ {held}, stage = some held → ∃ op outcome, flight = some ⟨op, .serving, outcome⟩
  returned : ∀ {op transit answer}, flight = some ⟨op, transit, .returned answer⟩ →
    settledBy stage transit = some answer

def Accounted (s : Remote σ κ ω ρ ε) : Prop :=
  ∀ call, Fits (s.flights call) (s.server.stage call)

theorem accounted_new (value : σ) : Accounted (.new value : Remote σ κ ω ρ ε) := by
  intro call
  constructor <;> intros <;> contradiction

/-- A call that is not at the server. -/
theorem fits_elsewhere {op : ω} {transit : Transit ρ} {outcome : Outcome ρ}
    (away : transit ≠ .serving)
    (returned : ∀ answer, outcome = .returned answer →
      settledBy (none : Option (Stage ω ρ)) transit = some answer) :
    Fits (some ⟨op, transit, outcome⟩) none where
  serving same := by
    cases same
    exact absurd rfl away
  elsewhere none := nomatch none
  returned same := by
    cases same
    exact returned _ rfl

theorem stage_of_away {flight : Option (Flight ω ρ)} {stage : Option (Stage ω ρ)}
    (fits : Fits flight stage) (away : ∀ op outcome, flight ≠ some ⟨op, .serving, outcome⟩) :
    stage = none := by
  cases here : stage with
  | none => rfl
  | some held =>
    obtain ⟨op, outcome, serving⟩ := fits.elsewhere here
    exact absurd serving (away op outcome)

section Simulation
variable [DecidableEq κ] {serve : σ → ω → σ × ρ} {alter : σ → ε → σ} {s t : Remote σ κ ω ρ ε}

/-- The effects that a call has had. -/
def effectsOf (call : κ) (history : List (Event κ ω ρ ε)) : List (ω × ρ) :=
  history.filterMap fun event => match event with
    | .effect client op answer => if client = call then some (op, answer) else none
    | _ => none

/-- The effects it should have had. -/
def expected (flight : Option (Flight ω ρ)) (stage : Option (Stage ω ρ)) : List (ω × ρ) :=
  match flight with
  | none => []
  | some ⟨op, transit, _⟩ => ((settledBy stage transit).map fun answer => (op, answer)).toList

def Counted (s : Remote σ κ ω ρ ε) : Prop :=
  ∀ call, effectsOf call s.history = expected (s.flights call) (s.server.stage call)

/-- One call moves, and its operation at the server. -/
theorem accounted_moved (accounted : Accounted s) (call : κ) {flight : Option (Flight ω ρ)}
    {stage : Option (Stage ω ρ)} (fits : Fits flight stage)
    (flights : t.flights = Function.update s.flights call flight)
    (stages : t.server.stage = Function.update s.server.stage call stage) : Accounted t := by
  intro probe
  rw [flights, stages, Function.update_apply, Function.update_apply]
  split
  · exact fits
  · exact accounted probe

theorem counted_moved (counted : Counted s) (call : κ) {flight : Option (Flight ω ρ)}
    {stage : Option (Stage ω ρ)}
    (flights : t.flights = Function.update s.flights call flight)
    (stages : t.server.stage = Function.update s.server.stage call stage)
    (others : ∀ probe, probe ≠ call → effectsOf probe t.history = effectsOf probe s.history)
    (own : effectsOf call t.history = expected flight stage) : Counted t := by
  intro probe
  rw [flights, stages, Function.update_apply, Function.update_apply]
  split
  · rename_i same
    rw [same, own]
  · rename_i other
    rw [others probe other, counted probe]

theorem callers_moved (call : κ) {flight : Option (Flight ω ρ)} {stage : Option (Stage ω ρ)}
    (flights : t.flights = Function.update s.flights call flight)
    (stages : t.server.stage = Function.update s.server.stage call stage) :
    (callers t).stage = Function.update (callers s).stage call (seen flight stage) := by
  funext probe
  simp only [callers, flights, stages, Function.update_apply]
  split <;> rfl

theorem effectsOf_append (call : κ) (history later : List (Event κ ω ρ ε)) :
    effectsOf call (history ++ later) = effectsOf call history ++ effectsOf call later :=
  List.filterMap_append

/-- What holds of a run so far. -/
structure Sound (serve : σ → ω → σ × ρ) (alter : σ → ε → σ) (init : σ)
    (s : Remote σ κ ω ρ ε) : Prop where
  accounted : Accounted s
  counted : Counted s
  consistent : Consistent serve alter init (callers s)

variable {init : σ}

theorem sound_new (init : σ) : Sound serve alter init (.new init : Remote σ κ ω ρ ε) where
  accounted := accounted_new init
  counted _ := rfl
  consistent := consistent_new init

/-- A move that its caller does not see. -/
theorem consistent_same (sound : Sound serve alter init s) (call : κ)
    {flight : Option (Flight ω ρ)} {stage : Option (Stage ω ρ)}
    (value : t.server.value = s.server.value) (history : t.history = s.history)
    (flights : t.flights = Function.update s.flights call flight)
    (stages : t.server.stage = Function.update s.server.stage call stage)
    (unseen : seen flight stage = seen (s.flights call) (s.server.stage call)) :
    Consistent serve alter init (callers t) := by
  have same : (callers t).stage = (callers s).stage := by
    rw [callers_moved call flights stages, unseen]
    exact Function.update_eq_self call _
  have parts : callers t = ⟨t.server.value, (callers t).stage, t.history⟩ := rfl
  rw [parts, same, value, history]
  exact sound.consistent

/-- A move that its caller sees. -/
theorem consistent_tell (sound : Sound serve alter init s) (call : κ)
    {flight : Option (Flight ω ρ)} {stage : Option (Stage ω ρ)} {event : Event κ ω ρ ε}
    (history : t.history = s.history ++ [event])
    (flights : t.flights = Function.update s.flights call flight)
    (stages : t.server.stage = Function.update s.server.stage call stage)
    (step : Linearization.Step serve alter (callers s)
      { (callers s).move call (seen flight stage) event with value := t.server.value }) :
    Consistent serve alter init (callers t) := by
  have parts : callers t = ⟨t.server.value, (callers t).stage, t.history⟩ := rfl
  rw [parts, callers_moved call flights stages, history]
  exact consistent_step sound.consistent step

/-- A call moves on, with the answer that its effect had. -/
theorem sound_same (sound : Sound serve alter init s) {call : κ} {op : ω} {transit next : Transit ρ}
    {outcome : Outcome ρ} {stage : Option (Stage ω ρ)}
    (was : s.flights call = some ⟨op, transit, outcome⟩)
    (value : t.server.value = s.server.value) (history : t.history = s.history)
    (flights : t.flights = Function.update s.flights call (some ⟨op, next, outcome⟩))
    (stages : t.server.stage = Function.update s.server.stage call stage)
    (fits : Fits (some ⟨op, next, outcome⟩) stage)
    (settled : settledBy stage next = settledBy (s.server.stage call) transit) :
    Sound serve alter init t where
  accounted := accounted_moved sound.accounted call fits flights stages
  counted := by
    refine counted_moved sound.counted call flights stages (fun _ _ => by rw [history]) ?_
    rw [history, sound.counted call, was]
    simp only [expected, settled]
  consistent := by
    have unseen : seen (some ⟨op, next, outcome⟩) stage =
        seen (s.flights call) (s.server.stage call) := by
      rw [was]
      cases outcome <;> simp only [seen, settled]
    exact consistent_same sound call value history flights stages unseen

omit [DecidableEq κ] in
/-- What is called at the server is being served, and has not returned. -/
theorem flight_of_called (accounted : Accounted s) {call : κ} {op : ω}
    (called : s.server.stage call = some (.called op)) :
    ∃ outcome, s.flights call = some ⟨op, .serving, outcome⟩ ∧
      ∀ answer, outcome ≠ .returned answer := by
  obtain ⟨other, outcome, flight⟩ := (accounted call).elsewhere called
  obtain ⟨held, here, same⟩ := (accounted call).serving flight
  cases called.symm.trans here
  cases same
  refine ⟨outcome, flight, ?_⟩
  rintro answer rfl
  have settled := (accounted call).returned flight
  rw [called] at settled
  cases settled

theorem seen_called {op : ω} {outcome : Outcome ρ} (waits : ∀ answer, outcome ≠ .returned answer) :
    seen (some ⟨op, .serving, outcome⟩) (some (.called op)) = some (.called op) := by
  cases outcome with
  | returned answer => exact absurd rfl (waits answer)
  | pending | failed => rfl

theorem seen_settled {op : ω} {outcome : Outcome ρ} {answer : ρ}
    (waits : ∀ answer, outcome ≠ .returned answer) :
    seen (some ⟨op, .serving, outcome⟩) (some (.settled op answer)) =
      some (.settled op answer) := by
  cases outcome with
  | returned answer => exact absurd rfl (waits answer)
  | pending | failed => rfl

/-- An operation takes effect at the server. -/
theorem sound_effect (sound : Sound serve alter init s) {call : κ} {op : ω}
    (called : s.server.stage call = some (.called op))
    (flights : t.flights = s.flights)
    (stages : t.server.stage =
      Function.update s.server.stage call (some (.settled op (serve s.server.value op).2)))
    (value : t.server.value = (serve s.server.value op).1)
    (history : t.history = s.history ++ [.effect call op (serve s.server.value op).2]) :
    Sound serve alter init t := by
  obtain ⟨outcome, flight, waits⟩ := flight_of_called sound.accounted called
  have moved : t.flights =
      Function.update s.flights call (some ⟨op, .serving, outcome⟩) := by
    rw [flights, ← flight]
    exact (Function.update_eq_self call _).symm
  have here : (callers s).stage call = some (.called op) := by
    simp only [callers, flight, called]
    exact seen_called waits
  refine ⟨accounted_moved sound.accounted call ⟨?_, ?_, ?_⟩ moved stages,
    counted_moved sound.counted call moved stages (fun probe other => ?_) ?_, ?_⟩
  · rintro _ _ ⟨⟩
    exact ⟨_, rfl, rfl⟩
  · rintro _ ⟨⟩
    exact ⟨op, outcome, rfl⟩
  · rintro _ _ answer ⟨⟩
    exact absurd rfl (waits answer)
  · rw [history, effectsOf_append]
    simp [effectsOf, other.symm]
  · rw [history, effectsOf_append, sound.counted call, flight, called]
    simp [effectsOf, expected, settledBy, answerOf]
  · refine consistent_tell sound call history moved stages ?_
    rw [seen_settled waits, value]
    exact .effect here

/-- An operation takes effect, or the value changes by itself. -/
theorem sound_internal (sound : Sound serve alter init s) {server : Shared σ κ ω ρ ε}
    (step : Internal serve alter s.server server) :
    Sound serve alter init { s with
      server
      history := s.history ++ server.history.drop s.server.history.length } := by
  cases step with
  | rest =>
    rw [List.drop_length, List.append_nil]
    exact sound
  | effect called =>
    refine sound_effect sound called rfl rfl rfl ?_
    simp [Shared.move]
  | change change =>
    have events : (s.server.history ++ [Event.change change]).drop s.server.history.length =
        [.change change] := List.drop_left
    rw [events]
    refine ⟨sound.accounted, fun call => ?_, ?_⟩
    · rw [effectsOf_append, sound.counted call]
      simp [effectsOf]
    · exact consistent_step sound.consistent (.change change)

/-- A call or a return, away from the server. -/
theorem sound_tell (sound : Sound serve alter init s) {call : κ} {flight : Flight ω ρ}
    {event : Event κ ω ρ ε} (away : ∀ op outcome, s.flights call ≠ some ⟨op, .serving, outcome⟩)
    (server : t.server = s.server) (history : t.history = s.history ++ [event])
    (flights : t.flights = Function.update s.flights call (some flight))
    (quiet : ∀ probe, effectsOf probe [event] = []) (fits : Fits (some flight) none)
    (settled : expected (some flight) none = expected (s.flights call) none)
    (step : Linearization.Step serve alter (callers s)
      ((callers s).move call (seen (some flight) none) event)) :
    Sound serve alter init t := by
  have idle := stage_of_away (sound.accounted call) away
  have stages : t.server.stage = Function.update s.server.stage call none := by
    rw [server]
    exact Function.eq_update_self_iff.mpr idle
  have still (probe : κ) : effectsOf probe t.history = effectsOf probe s.history := by
    rw [history, effectsOf_append, quiet, List.append_nil]
  refine ⟨accounted_moved sound.accounted call fits flights stages,
    counted_moved sound.counted call flights stages (fun probe _ => still probe) ?_,
    consistent_tell sound call history flights stages ?_⟩
  · rw [still, sound.counted call, idle, settled]
  · rw [server]
    exact step

/-- A request or an answer gets lost. -/
theorem sound_lost (sound : Sound serve alter init s) {call : κ} {op : ω} {transit : Transit ρ}
    {outcome : Outcome ρ} {answer : Option ρ}
    (sent : s.flights call = some ⟨op, transit, outcome⟩) (away : transit ≠ .serving)
    (had : settledBy (none : Option (Stage ω ρ)) transit = answer) :
    Sound serve alter init (s.fly call ⟨op, .lost answer, outcome⟩) := by
  have fits := sound.accounted call
  have idle := stage_of_away fits fun _ _ same => by
    cases sent.symm.trans same
    exact away rfl
  have stages : s.server.stage = Function.update s.server.stage call none :=
    Function.eq_update_self_iff.mpr idle
  have settled : settledBy (s.server.stage call) transit = answer := idle.symm ▸ had
  refine sound_same sound sent rfl rfl rfl stages (fits_elsewhere nofun ?_) settled.symm
  rintro other rfl
  exact settled.symm.trans (fits.returned sent)

/-- A caller stops waiting, wherever its call is. -/
theorem sound_fail (sound : Sound serve alter init s) {call : κ} {op : ω} {transit : Transit ρ}
    (pending : s.flights call = some ⟨op, transit, .pending⟩) :
    Sound serve alter init (s.fly call ⟨op, transit, .failed⟩) := by
  have stages : s.server.stage = Function.update s.server.stage call (s.server.stage call) :=
    (Function.update_eq_self call _).symm
  have was := sound.accounted call
  have fits : Fits (some ⟨op, transit, .failed⟩) (s.server.stage call) := by
    refine ⟨?_, fun here => ?_, nofun⟩
    · rintro _ _ ⟨⟩
      exact was.serving pending
    · obtain ⟨_, _, flight⟩ := was.elsewhere here
      cases pending.symm.trans flight
      exact ⟨_, _, rfl⟩
  have unseen : seen (some ⟨op, transit, .failed⟩) (s.server.stage call) =
      seen (s.flights call) (s.server.stage call) := by
    rw [pending]
    rfl
  refine ⟨accounted_moved sound.accounted call fits rfl stages,
    counted_moved sound.counted call rfl stages (fun _ _ => rfl) ?_,
    consistent_same sound call rfl rfl rfl stages unseen⟩
  exact (sound.counted call).trans (by rw [pending]; rfl)

theorem sound_step (sound : Sound serve alter init s) (step : Step serve alter s t) :
    Sound serve alter init t := by
  cases step with
  | send call op fresh =>
    have unseen : (callers s).stage call = none := by
      simp only [callers, fresh]
      rfl
    refine sound_tell sound (fun _ _ same => ?_) rfl rfl rfl (fun _ => rfl)
      (fits_elsewhere nofun nofun) ?_ (.call call op unseen)
    · cases fresh.symm.trans same
    · rw [fresh]
      rfl
  | @deliver call op outcome sent =>
    have fits := sound.accounted call
    have idle := stage_of_away fits fun _ _ same => by cases sent.symm.trans same
    refine sound_same sound sent rfl rfl rfl rfl ⟨?_, ?_, ?_⟩ ?_
    · rintro _ _ ⟨⟩
      exact ⟨_, rfl, rfl⟩
    · rintro _ ⟨⟩
      exact ⟨op, outcome, rfl⟩
    · rintro _ _ answer ⟨⟩
      cases fits.returned sent
    · rfl
  | serve step => exact sound_internal sound step
  | @reply call op outcome answer serving settled =>
    refine sound_same sound serving rfl rfl rfl rfl (fits_elsewhere nofun ?_) ?_
    · rintro other rfl
      have same := (sound.accounted call).returned serving
      rwa [settled] at same
    · rw [settled]
      rfl
  | @drop call op outcome serving =>
    refine sound_same sound serving rfl rfl rfl rfl (fits_elsewhere nofun ?_) rfl
    rintro other rfl
    exact (sound.accounted call).returned serving
  | loseRequest sent => exact sound_lost sound sent nofun rfl
  | loseAnswer sent => exact sound_lost sound sent nofun rfl
  | @receive call op answer sent =>
    have settled : (callers s).stage call = some (.settled op answer) := by
      simp only [callers, sent]
      rfl
    refine sound_tell sound (fun _ _ same => ?_) rfl rfl rfl (fun _ => rfl)
      (fits_elsewhere nofun fun _ same => ?_) ?_ (.reply settled)
    · cases sent.symm.trans same
    · cases same
      rfl
    · rw [sent]
      rfl
  | fail pending => exact sound_fail sound pending

/-! ### Runs -/

theorem sound_of_steps
    (run : Relation.ReflTransGen (Step serve alter) (.new init : Remote σ κ ω ρ ε) t) :
    Sound serve alter init t := by
  induction run with
  | refl => exact sound_new init
  | tail _ step ih => exact sound_step ih step

end Simulation

end OpenSovd.Support.RemoteObject
