import OpenSovd.LiveDataProofs
import OpenSovd.Support.WaitingLine

/-! The line in front of the lock. Guards are given out in the order in which they
were asked for: who waits for the write guard lets no later request pass, and
waits for every handler that is inside. So a provider that does not answer holds
up the requests that come after the next writer, and no others. -/
namespace OpenSovd.Queueing
open OpenSovd.Support.WaitingLine
open OpenSovd.Provider OpenSovd.Entity OpenSovd.Topology OpenSovd.Responses
open OpenSovd.Handlers OpenSovd.DataRequests OpenSovd.Boxes OpenSovd.LiveData
open OpenSovd.LiveDataProofs

/-- Who waits for a guard: the handler of a client, or a task that writes. -/
inductive Waiter (κ : Type) where
  | reader (client : κ)
  | writer (task : Nat)
  deriving DecidableEq

variable {A P κ : Type}

structure System (A P κ : Type) where
  world : World A P κ
  line : List (Waiter κ)

/-- The act is that of somebody who holds a guard already, or needs none. -/
def Within : Act κ → Prop
  | .serve _ | .reply _ | .perform | .release | .live => True
  | .arrive _ | .enter _ | .cancel _ | .acquire => False

section Stepping
variable [DecidableEq κ] [DecidableEq A] [DataProvider P] (schemas : Schemas)

/-- A step of the world in which guards are given out in turn. A task may stop
waiting for the write guard. -/
inductive Step : System A P κ → System A P κ → Prop where
  | arrive {s client world} (step : LiveData.Step schemas (.arrive client) s.world world) :
      Step s ⟨world, s.line ++ [.reader client]⟩
  | enter {s client world line} (first : s.line = .reader client :: line)
      (step : LiveData.Step schemas (.enter client) s.world world) : Step s ⟨world, line⟩
  | cancel {s client world} (step : LiveData.Step schemas (.cancel client) s.world world) :
      Step s ⟨world, s.line.erase (.reader client)⟩
  | ask {s} (task : Nat) (fresh : .writer task ∉ s.line) :
      Step s ⟨s.world, s.line ++ [.writer task]⟩
  | acquire {s task world line} (first : s.line = .writer task :: line)
      (step : LiveData.Step schemas .acquire s.world world) : Step s ⟨world, line⟩
  | giveUp {s} (task : Nat) : Step s ⟨s.world, s.line.erase (.writer task)⟩
  | within {s act world} (inside : Within act)
      (step : LiveData.Step schemas act s.world world) : Step s ⟨world, s.line⟩

abbrev Steps : System A P κ → System A P κ → Prop := Relation.ReflTransGen (Queueing.Step schemas)

end Stepping

def start (heap : A → P) : System A P κ := ⟨LiveData.start heap, []⟩

/-! ### One act of a client -/

def Waits (w : World A P κ) (client : κ) : Prop :=
  ∃ request, w.progress client = some (.waiting request)

/-- The handler has its read guard. -/
def Inside (w : World A P κ) (client : κ) : Prop :=
  ∃ held, w.progress client = some held ∧ held.Holds

/-- The provider that the handler asks has not answered. -/
def Hangs (w : World A P κ) (client : κ) : Prop :=
  ∃ request owner box, w.progress client = some (.calling request owner box)

def actor : Act κ → Option κ
  | .arrive client | .enter client | .serve client | .reply client | .cancel client => some client
  | .acquire | .perform | .release | .live => none

theorem inside_of_hangs {w : World A P κ} {client : κ} (hangs : Hangs w client) :
    Inside w client := by
  obtain ⟨request, owner, box, here⟩ := hangs
  exact ⟨_, here, trivial⟩

theorem not_inside_of_waits {w : World A P κ} {client : κ} (waits : Waits w client) :
    ¬ Inside w client := by
  rintro ⟨held, here, holds⟩
  obtain ⟨request, waiting⟩ := waits
  cases waiting.symm.trans here
  exact holds

variable [DecidableEq κ] [DecidableEq A] [DataProvider P] {schemas : Schemas}
  {w next : World A P κ} {s t : System A P κ} {act : Act κ}

/-- Clients are left alone by what others do. -/
theorem progress_other (step : LiveData.Step schemas act w next) {client : κ}
    (other : actor act ≠ some client) : next.progress client = w.progress client := by
  have kept (value : Option (Progress A)) {mover : κ} (differ : some mover ≠ some client) :
      Function.update w.progress mover value client = w.progress client :=
    Function.update_of_ne (fun same => differ (congrArg some same.symm)) _ _
  cases step with
  | acquire | perform | release | live => rfl
  | _ => exact kept _ other

/-- What an act does to the handler of its client. -/
theorem progress_actor (step : LiveData.Step schemas act w next) :
    match act with
    | .arrive client => w.progress client = none ∧ Waits next client
    | .enter client => Waits w client ∧ Inside next client
    | .serve client => Inside w client ∧ Inside next client
    | .reply client => Inside w client ∧ next.progress client = none
    | .cancel client => next.progress client = none
    | _ => True := by
  cases step with
  | arrive client request idle => exact ⟨idle, request, Function.update_self _ _ _⟩
  | answer unlocked waits plain =>
    exact ⟨⟨_, waits⟩, _, Function.update_self _ _ _, trivial⟩
  | refuse unlocked waits asks missing =>
    exact ⟨⟨_, waits⟩, _, Function.update_self _ _ _, trivial⟩
  | enter unlocked waits asks found =>
    exact ⟨⟨_, waits⟩, _, Function.update_self _ _ _, trivial⟩
  | read calls asks =>
    exact ⟨⟨_, calls, trivial⟩, _, Function.update_self _ _ _, trivial⟩
  | write calls =>
    exact ⟨⟨_, calls, trivial⟩, _, Function.update_self _ _ _, trivial⟩
  | reply settled => exact ⟨⟨_, settled, trivial⟩, Function.update_self _ _ _⟩
  | cancel client => exact Function.update_self _ _ _
  | acquire | perform | release | live => trivial

/-- Whoever waits can be let in while nobody writes. -/
theorem enter_enabled (schemas : Schemas) {client : κ} (unlocked : w.writer = false)
    (waits : Waits w client) :
    ∃ next, LiveData.Step schemas (.enter client) w next ∧ next.writer = false := by
  obtain ⟨request, here⟩ := waits
  cases asks : request.owner with
  | none =>
    cases request with
    | get base query route =>
      have plain : dataOf route = none := Option.map_eq_none_iff.mp asks
      exact ⟨_, .answer unlocked here plain, unlocked⟩
    | put owner dataId body => cases asks
  | some owner =>
    cases found : providerOf w.topo owner with
    | error error => exact ⟨_, .refuse unlocked here asks found, unlocked⟩
    | ok box => exact ⟨_, .enter unlocked here asks found, unlocked⟩

/-! ### Who is in line -/

/-- The handlers in line are those that wait, once each. -/
structure Orderly (s : System A P κ) : Prop where
  sound : Sound s.world
  nodup : s.line.Nodup
  waits : ∀ client, .reader client ∈ s.line ↔ Waits s.world client

omit [DecidableEq κ] [DecidableEq A] [DataProvider P] in
theorem orderly_start (heap : A → P) : Orderly (start heap : System A P κ) where
  sound := sound_start heap
  nodup := List.nodup_nil
  waits client := by simp [start, LiveData.start, Waits]

theorem waits_other (step : LiveData.Step schemas act w next) {client : κ}
    (other : actor act ≠ some client) : Waits next client ↔ Waits w client := by
  unfold Waits
  rw [progress_other step other]

theorem inside_other (step : LiveData.Step schemas act w next) {client : κ}
    (other : actor act ≠ some client) : Inside next client ↔ Inside w client := by
  unfold Inside
  rw [progress_other step other]

omit [DecidableEq κ] [DecidableEq A] [DataProvider P] in
theorem not_waits_of_none {client : κ} (none : w.progress client = none) : ¬ Waits w client := by
  rintro ⟨request, waiting⟩
  cases waiting.symm.trans none

/-- Those who are inside or leave are not in line. -/
theorem waits_within (inside : Within act) (step : LiveData.Step schemas act w next) (client : κ) :
    Waits next client ↔ Waits w client := by
  by_cases own : actor act = some client
  · have moved := progress_actor step
    cases act with
    | serve mover =>
      cases own
      exact iff_of_false (fun after => not_inside_of_waits after moved.2)
        fun before => not_inside_of_waits before moved.1
    | reply mover =>
      cases own
      exact iff_of_false (not_waits_of_none moved.2) fun before =>
        not_inside_of_waits before moved.1
    | arrive | enter | cancel | acquire => exact inside.elim
    | perform | release | live => cases own
  · exact waits_other step own

theorem orderly_step (orderly : Orderly s) (step : Queueing.Step schemas s t) : Orderly t := by
  cases step with
  | @arrive client world step =>
    obtain ⟨idle, waits⟩ := progress_actor step
    have absent : .reader client ∉ s.line :=
      fun member => not_waits_of_none idle ((orderly.waits client).mp member)
    refine ⟨sound_step orderly.sound step, ?_, fun probe => ?_⟩
    · exact orderly.nodup.append (List.nodup_singleton _) (List.disjoint_singleton.mpr absent)
    · rw [List.mem_append, List.mem_singleton, orderly.waits probe]
      by_cases same : probe = client
      · subst same
        exact iff_of_true (Or.inr rfl) waits
      · have other : actor (.arrive client) ≠ some probe := fun equal =>
          same (Option.some.inj equal).symm
        rw [waits_other step other]
        exact or_iff_left fun equal => same (Waiter.reader.inj equal)
  | @enter client world line first step =>
    obtain ⟨_, inside⟩ := progress_actor step
    have nodup := first ▸ orderly.nodup
    obtain ⟨absent, nodup⟩ := List.nodup_cons.mp nodup
    refine ⟨sound_step orderly.sound step, nodup, fun probe => ?_⟩
    by_cases same : probe = client
    · subst same
      exact iff_of_false absent fun waits => not_inside_of_waits waits inside
    · have other : actor (.enter client) ≠ some probe := fun equal =>
        same (Option.some.inj equal).symm
      rw [waits_other step other, ← orderly.waits probe, first, List.mem_cons]
      exact (or_iff_right fun equal => same (Waiter.reader.inj equal)).symm
  | @cancel client world step =>
    have gone := progress_actor step
    refine ⟨sound_step orderly.sound step, orderly.nodup.erase _, fun probe => ?_⟩
    rw [orderly.nodup.mem_erase_iff, orderly.waits probe]
    by_cases same : probe = client
    · subst same
      exact iff_of_false (fun both => both.1 rfl) (not_waits_of_none gone)
    · have other : actor (.cancel client) ≠ some probe := fun equal =>
        same (Option.some.inj equal).symm
      rw [waits_other step other]
      exact and_iff_right fun equal => same (Waiter.reader.inj equal)
  | ask task fresh =>
    refine ⟨orderly.sound, ?_, fun probe => ?_⟩
    · exact orderly.nodup.append (List.nodup_singleton _) (List.disjoint_singleton.mpr fresh)
    · rw [List.mem_append, List.mem_singleton, orderly.waits probe]
      exact or_iff_left nofun
  | @acquire task world line first step =>
    have nodup := first ▸ orderly.nodup
    refine ⟨sound_step orderly.sound step, (List.nodup_cons.mp nodup).2, fun probe => ?_⟩
    rw [waits_other step nofun, ← orderly.waits probe, first, List.mem_cons]
    exact (or_iff_right nofun).symm
  | giveUp task =>
    refine ⟨orderly.sound, orderly.nodup.erase _, fun probe => ?_⟩
    rw [orderly.nodup.mem_erase_iff, orderly.waits probe]
    exact and_iff_right nofun
  | @within act world inside step =>
    refine ⟨sound_step orderly.sound step, orderly.nodup, fun probe => ?_⟩
    rw [waits_within inside step, orderly.waits probe]

theorem orderly_of_steps {heap : A → P} (run : Queueing.Steps schemas (start heap) s) :
    Orderly s := by
  induction run with
  | refl => exact orderly_start heap
  | tail _ step ih => exact orderly_step ih step

/-! ### Behind a writer -/

/-- A step during which a handler keeps hanging and no writer gives up. -/
def Patient (schemas : Schemas) (stuck : κ) (s t : System A P κ) : Prop :=
  Queueing.Step schemas s t ∧ Hangs t.world stuck ∧
    ∀ task, .writer task ∈ s.line → .writer task ∈ t.line

/-- Behind a writer, and not inside. -/
def HeldUp (s : System A P κ) (task : Nat) (client : κ) : Prop :=
  Behind s.line (.writer task) (.reader client) ∧ ¬ Inside s.world client

/-- An act inside lets nobody in. -/
theorem inside_within (inside : Within act) (step : LiveData.Step schemas act w next) {client : κ}
    (out : ¬ Inside w client) : ¬ Inside next client := by
  by_cases own : actor act = some client
  · have moved := progress_actor step
    cases act with
    | serve mover =>
      cases own
      exact absurd moved.1 out
    | reply mover =>
      cases own
      exact absurd moved.1 out
    | arrive | enter | cancel | acquire => exact inside.elim
    | perform | release | live => cases own
  · rwa [inside_other step own]

/-- Nobody can write while a handler hangs. -/
theorem not_acquire_of_hangs {stuck : κ} (hangs : Hangs w stuck)
    (step : LiveData.Step schemas .acquire w next) : False := by
  obtain ⟨held, here, holds⟩ := inside_of_hangs hangs
  cases step with
  | acquire unlocked unread => exact unread stuck held here holds

theorem heldUp_step {stuck client : κ} {task : Nat} (orderly : Orderly s)
    (hangs : Hangs s.world stuck) (heldUp : HeldUp s task client)
    (step : Patient schemas stuck s t) : HeldUp t task client := by
  obtain ⟨behind, out⟩ := heldUp
  obtain ⟨step, _, patient⟩ := step
  cases step with
  | @arrive mover world step =>
    refine ⟨behind_joined behind _, fun inside => ?_⟩
    by_cases same : mover = client
    · subst same
      exact not_inside_of_waits (progress_actor step).2 inside
    · have other : actor (.arrive mover) ≠ some client := fun equal =>
        same (Option.some.inj equal)
      exact out ((inside_other step other).mp inside)
  | @enter mover world line first step =>
    rw [first] at behind
    obtain ⟨behind, passes⟩ := behind_gone behind nofun
    have other : actor (.enter mover) ≠ some client := fun equal =>
      passes (congrArg Waiter.reader (Option.some.inj equal))
    exact ⟨behind, fun inside => out ((inside_other step other).mp inside)⟩
  | @cancel mover world step =>
    refine ⟨behind_left behind nofun, fun inside => ?_⟩
    by_cases same : mover = client
    · subst same
      obtain ⟨held, here, _⟩ := inside
      cases here.symm.trans (progress_actor step)
    · have other : actor (.cancel mover) ≠ some client := fun equal =>
        same (Option.some.inj equal)
      exact out ((inside_other step other).mp inside)
  | ask other fresh => exact ⟨behind_joined behind _, out⟩
  | acquire first step => exact (not_acquire_of_hangs hangs step).elim
  | giveUp other =>
    refine ⟨behind_left behind ?_, out⟩
    rintro ⟨⟩
    obtain ⟨front, back, line, _⟩ := behind
    have here : .writer task ∈ s.line := line ▸ List.mem_append_right _ List.mem_cons_self
    exact (orderly.nodup.mem_erase_iff.mp (patient task here)).1 rfl
  | within inside step => exact ⟨behind, inside_within inside step out⟩

/-- As long as the handler hangs, whoever is behind a writer stays out. -/
theorem heldUp_of_patient {stuck client : κ} {task : Nat} (orderly : Orderly s)
    (hangs : Hangs s.world stuck) (heldUp : HeldUp s task client)
    (run : Relation.ReflTransGen (Patient schemas stuck) s t) : ¬ Inside t.world client := by
  suffices all : Orderly t ∧ Hangs t.world stuck ∧ HeldUp t task client from all.2.2.2
  induction run with
  | refl => exact ⟨orderly, hangs, heldUp⟩
  | tail _ step ih =>
    exact ⟨orderly_step ih.1 step.1, step.2.1, heldUp_step ih.1 ih.2.1 ih.2.2 step⟩

/-! ### Not behind a writer -/

/-- The first in line goes in, while somebody else hangs. -/
theorem first_goes_in (schemas : Schemas) {stuck client : κ} {line : List (Waiter κ)}
    (orderly : Orderly s) (hangs : Hangs s.world stuck) (first : s.line = .reader client :: line) :
    ∃ world, Patient schemas stuck s ⟨world, line⟩ ∧ Inside world client := by
  have waits : Waits s.world client :=
    (orderly.waits client).mp (first ▸ List.mem_cons_self)
  obtain ⟨held, here, holds⟩ := inside_of_hangs hangs
  have unlocked := unlocked_of_holds orderly.sound here holds
  obtain ⟨world, step, _⟩ := enter_enabled schemas unlocked waits
  have other : actor (.enter client) ≠ some stuck := by
    rintro ⟨⟩
    exact not_inside_of_waits waits (inside_of_hangs hangs)
  have still : Hangs world stuck := by
    unfold Hangs
    rwa [progress_other step other]
  refine ⟨world, ⟨.enter first step, still, fun task inLine => ?_⟩, (progress_actor step).2⟩
  rw [first, List.mem_cons] at inLine
  exact inLine.resolve_left nofun

theorem goes_in_of_no_writer {stuck client : κ} {front back : List (Waiter κ)}
    (orderly : Orderly s) (hangs : Hangs s.world stuck)
    (line : s.line = front ++ .reader client :: back) (free : ∀ task, .writer task ∉ front) :
    ∃ t, Relation.ReflTransGen (Patient schemas stuck) s t ∧ Inside t.world client := by
  induction front generalizing s with
  | nil =>
    obtain ⟨world, step, inside⟩ := first_goes_in schemas orderly hangs line
    exact ⟨_, .single step, inside⟩
  | cons first front ih =>
    cases first with
    | writer task => exact absurd List.mem_cons_self (free task)
    | reader before =>
      obtain ⟨world, step, _⟩ := first_goes_in schemas orderly hangs line
      obtain ⟨t, run, inside⟩ := ih (orderly_step orderly step.1) step.2.1 rfl
        fun task member => free task (List.mem_cons_of_mem _ member)
      exact ⟨t, .head step run, inside⟩

/-! ### The whole -/

/-- The line moves unless somebody holds a guard. While one handler hangs, another
gets in, in some run without writers that give up, exactly if there is no writer
in line before it. -/
structure ServedInTurn (schemas : Schemas) (s : System A P κ) : Prop where
  moves : s.line ≠ [] → (∃ t, Queueing.Step schemas s t ∧ t.line = s.line.tail) ∨
    s.world.writer = true ∨ ∃ client, Inside s.world client
  heldUp : ∀ stuck client, Hangs s.world stuck → Waits s.world client →
    ((∃ t, Relation.ReflTransGen (Patient schemas stuck) s t ∧ Inside t.world client) ↔
      ∀ task, ¬ Behind s.line (.writer task) (.reader client))

theorem moves_of_orderly (orderly : Orderly s) (some : s.line ≠ []) :
    (∃ t, Queueing.Step schemas s t ∧ t.line = s.line.tail) ∨
      s.world.writer = true ∨ ∃ client, Inside s.world client := by
  cases locked : s.world.writer with
  | true => exact Or.inr (Or.inl rfl)
  | false =>
    cases first : s.line with
    | nil => exact absurd first some
    | cons waiter line =>
      cases waiter with
      | reader client =>
        have waits : Waits s.world client :=
          (orderly.waits client).mp (first ▸ List.mem_cons_self)
        obtain ⟨world, step, _⟩ := enter_enabled schemas locked waits
        exact Or.inl ⟨_, .enter first step, rfl⟩
      | writer task =>
        by_cases busy : ∃ client, Inside s.world client
        · exact Or.inr (Or.inr busy)
        · refine Or.inl ⟨_, .acquire first (.acquire locked fun client held here holds => ?_), rfl⟩
          exact busy ⟨client, held, here, holds⟩

/-- **A provider that does not answer** holds up the requests behind the next
writer and no others, in every state the system can reach. -/
theorem hung_provider_holds_up_iff (schemas : Schemas) {heap : A → P}
    (run : Queueing.Steps schemas (start heap) s) : ServedInTurn schemas s where
  moves some := moves_of_orderly (orderly_of_steps run) some
  heldUp stuck client hangs waits := by
    have orderly := orderly_of_steps run
    constructor
    · rintro ⟨t, patient, inside⟩ task behind
      exact heldUp_of_patient orderly hangs ⟨behind, not_inside_of_waits waits⟩ patient inside
    · intro free
      obtain ⟨front, back, line, once⟩ :=
        List.eq_append_cons_of_mem ((orderly.waits client).mpr waits)
      refine goes_in_of_no_writer orderly hangs line fun task ahead => ?_
      exact free task (line ▸ behind_of_mem_front ahead once)

/-- A lamp that does not answer, a task that wants to register something, and a
request that comes after it. -/
theorem late_request_held_up :
    ∃ s : System Unit (DataBuilder.BuiltDataProvider fun _ : Unit => ResourceRuns.switch) Bool,
      Hangs s.world true ∧ Waits s.world false ∧
        ¬ ∃ t, Relation.ReflTransGen (Patient ⟨.null, .null, .null⟩ true) s t ∧
          Inside t.world false := by
  have run : Queueing.Steps ⟨.null, .null, .null⟩ (start fun _ : Unit => readableLamp) _ :=
    Relation.ReflTransGen.refl
      |>.tail (.ask 0 List.not_mem_nil)
      |>.tail (.acquire rfl (.acquire rfl fun _ _ none => by cases none))
      |>.tail (.within (by trivial) (.perform rfl
        (.addComponent { id := "ecu", name := "ECU", dataProvider := some () }) readableLamp
        fun _ _ owner => providerOf_new owner ()))
      |>.tail (.within (by trivial) (.release rfl))
      |>.tail (.arrive (.arrive true (.get "" {} (.componentData "ecu" "lamp")) rfl))
      |>.tail (.enter rfl (.enter rfl (rfl : World.progress _ true = _) rfl rfl))
      |>.tail (.ask 1 List.not_mem_nil)
      |>.tail (.arrive (.arrive false (.get "" {} .componentList) rfl))
  have reached : ∃ s, Queueing.Steps ⟨.null, .null, .null⟩ (start fun _ : Unit => readableLamp) s ∧
      Hangs s.world true ∧ Waits s.world false ∧ Behind s.line (.writer 1) (.reader false) :=
    ⟨_, run, ⟨_, _, _, rfl⟩, ⟨_, rfl⟩, ⟨[], [.reader false], rfl, List.not_mem_nil⟩⟩
  obtain ⟨s, run, hangs, waits, behind⟩ := reached
  have turn := (hung_provider_holds_up_iff _ run).heldUp true false hangs waits
  exact ⟨s, hangs, waits, fun inside => turn.mp inside 1 behind⟩

end OpenSovd.Queueing
