import OpenSovd.LiveData
import OpenSovd.ResourceRuns

/-! Requests beside each other are linearizable. The read guard that a handler
keeps makes its lookup and its provider's answer one moment: the box it found is
still that of its entity, whatever happened to what is in it. -/
namespace OpenSovd.LiveDataProofs
open OpenSovd.Support OpenSovd.Support.Linearization
open OpenSovd.Provider OpenSovd.Entity OpenSovd.Topology OpenSovd.Responses
open OpenSovd.Routes OpenSovd.Handlers OpenSovd.DataRequests OpenSovd.Boxes OpenSovd.LiveData

variable {A P κ : Type} {schemas : Schemas} {act : Act κ} {s t : World A P κ}

theorem route_of_dataOf {r : Route} {owner : Owner} {endpoint : Endpoint}
    (found : dataOf r = some (owner, endpoint)) : r = route owner endpoint := by
  cases r <;> cases found <;> rfl

theorem owner_of_dataOf {base : String} {query : Query} {r : Route} {owner : Owner}
    (asks : (Request.get base query r).owner = some owner) :
    ∃ endpoint, dataOf r = some (owner, endpoint) := by
  obtain ⟨⟨_, endpoint⟩, found, rfl⟩ := Option.map_eq_some_iff.mp asks
  exact ⟨endpoint, found⟩

/-! ### The write guard in the history -/

/-- The write guard is out. -/
def writing (history : List (Event κ Request Answer (Change P))) : Bool :=
  history.foldl (fun held event => match event with
    | .change .acquire => true
    | .change .release => false
    | _ => held) false

@[simp] theorem writing_append_singleton (history : List (Event κ Request Answer (Change P)))
    (event : Event κ Request Answer (Change P)) :
    writing (history ++ [event]) = match event with
      | .change .acquire => true
      | .change .release => false
      | _ => writing history := by
  simp [writing]

/-- Nothing takes effect while the write guard is out, and guard calls are only
made then. -/
structure Excluded (history : List (Event κ Request Answer (Change P))) : Prop where
  effects : ∀ {before client request answer rest},
    history = before ++ .effect client request answer :: rest → writing before = false
  writes : ∀ {before op rest}, history = before ++ .change (.write op) :: rest →
    writing before = true

/-- The event may come after the history. -/
def Admissible (history : List (Event κ Request Answer (Change P))) :
    Event κ Request Answer (Change P) → Prop
  | .effect _ _ _ => writing history = false
  | .change (.write _) => writing history = true
  | _ => True

theorem excluded_append {history : List (Event κ Request Answer (Change P))}
    (excluded : Excluded history) {event : Event κ Request Answer (Change P)}
    (admissible : Admissible history event) : Excluded (history ++ [event]) where
  effects split := by
    rcases append_singleton_split split with ⟨rfl, rfl⟩ | ⟨_, old⟩
    · exact admissible
    · exact excluded.effects old
  writes split := by
    rcases append_singleton_split split with ⟨rfl, rfl⟩ | ⟨_, old⟩
    · exact admissible
    · exact excluded.writes old

/-! ### What the lock keeps -/

/-- Handlers and the write guard exclude each other, and the box that a handler
has found is still that of its entity, and of no other. -/
structure Sound (w : World A P κ) : Prop where
  exclusive : w.writer = true → ∀ client held, w.progress client = some held → ¬ held.Holds
  found : ∀ client request owner box, w.progress client = some (.calling request owner box) →
    request.owner = some owner ∧ providerOf w.topo owner = .ok box
  boxes : Exclusive w.topo
  guard : w.writer = writing w.history
  excluded : Excluded w.history

theorem providerOf_new (owner : Owner) (provider : P) :
    providerOf (TopologyState.new : TopologyState P) owner ≠ .ok provider := by
  cases owner <;> nofun

theorem sound_start (heap : A → P) : Sound (start heap : World A P κ) where
  exclusive unlocked := by cases unlocked
  found _ _ _ _ calls := by cases calls
  boxes owner _ box mine := absurd mine (providerOf_new owner box)
  guard := rfl
  excluded := ⟨fun split => by simp [start] at split, fun split => by simp [start] at split⟩

/-- A handler that holds its guard knows that nobody writes. -/
theorem unlocked_of_holds (sound : Sound s) {client : κ} {held : Progress A}
    (here : s.progress client = some held) (holds : held.Holds) : s.writer = false :=
  Bool.eq_false_iff.mpr fun writing => sound.exclusive writing client held here holds

/-- What boxes hold does not matter to the lock. -/
theorem sound_heap (sound : Sound s) (heap : A → P) : Sound { s with heap } :=
  ⟨sound.exclusive, sound.found, sound.boxes, sound.guard, sound.excluded⟩

variable [DecidableEq κ]

/-- When one handler moves, the lock keeps what it kept. -/
theorem sound_move (sound : Sound s) (client : κ) (progress : Option (Progress A))
    (event : Event κ Request Answer (Change P))
    (allowed : ∀ held, progress = some held → held.Holds → s.writer = false)
    (calls : ∀ request owner box, progress ≠ some (.calling request owner box))
    (own : event.client? = some client) (admissible : Admissible s.history event) :
    Sound (s.move client progress event) where
  exclusive writing probe held here := by
    simp only [World.move, Function.update_apply] at here
    split at here
    · intro holds
      cases writing.symm.trans (allowed held here holds)
    · exact sound.exclusive writing probe held here
  found probe request owner box here := by
    simp only [World.move, Function.update_apply] at here
    split at here
    · exact absurd here (calls request owner box)
    · exact sound.found probe request owner box here
  boxes := sound.boxes
  guard := by
    simp only [World.move, writing_append_singleton]
    rw [sound.guard]
    cases event with
    | change change => cases own
    | _ => rfl
  excluded := excluded_append sound.excluded admissible

/-- A handler has its answer. -/
theorem sound_settle (sound : Sound s) (unlocked : s.writer = false) (client : κ)
    (request : Request) (answer : Answer) : Sound (s.settle client request answer) :=
  sound_move sound client (some (.settled request answer)) (.effect client request answer)
    (fun _ _ _ => unlocked) (fun _ _ _ same => by cases same) rfl
    (sound.guard.symm.trans unlocked)

variable [DecidableEq A] [DataProvider P]

theorem sound_step (sound : Sound s) (step : LiveData.Step schemas act s t) : Sound t := by
  cases step with
  | arrive client request idle =>
    refine sound_move sound client (some (.waiting request)) (.call client request)
      (fun held same holds => ?_) (fun _ _ _ same => by cases same) rfl trivial
    cases same
    exact holds.elim
  | answer unlocked waits plain => exact sound_settle sound unlocked _ _ _
  | refuse unlocked waits asks missing => exact sound_settle sound unlocked _ _ _
  | @enter _ client request owner box unlocked waits asks found =>
    refine ⟨fun writing => ?_, fun probe other theirs its here => ?_, sound.boxes, sound.guard,
      sound.excluded⟩
    · cases writing.symm.trans unlocked
    · simp only [Function.update_apply] at here
      split at here
      · cases here
        exact ⟨asks, found⟩
      · exact sound.found probe other theirs its here
  | read calls asks => exact sound_settle sound (unlocked_of_holds sound calls trivial) _ _ _
  | write calls =>
    exact sound_heap (sound_settle sound (unlocked_of_holds sound calls trivial) _ _ _) _
  | @reply _ client request answer settled =>
    exact sound_move sound client none (.reply client request answer)
      (fun _ same => by cases same) (fun _ _ _ same => by cases same) rfl trivial
  | cancel client =>
    exact sound_move sound client none (.cancel client) (fun _ same => by cases same)
      (fun _ _ _ same => by cases same) rfl trivial
  | acquire unlocked unread =>
    refine ⟨fun _ => unread, sound.found, sound.boxes, ?_, excluded_append sound.excluded trivial⟩
    simp
  | perform held op provider fresh =>
    have idle := sound.exclusive held
    refine ⟨fun _ => idle, fun client request owner box calls => ?_,
      exclusive_perform sound.boxes fresh, ?_,
      excluded_append sound.excluded (sound.guard.symm.trans held)⟩
    · exact absurd trivial (idle client _ calls)
    · simp [← sound.guard]
  | release held =>
    refine ⟨nofun, sound.found, sound.boxes, ?_, excluded_append sound.excluded trivial⟩
    simp
  | live found provider =>
    refine ⟨sound.exclusive, sound.found, sound.boxes, ?_, excluded_append sound.excluded trivial⟩
    simp [← sound.guard]

/-! ### One moment for each request -/

def stage : Progress A → Stage Request Answer
  | .waiting request | .calling request _ _ => .called request
  | .settled request answer => .settled request answer

/-- The requests without the lock. -/
def shared (w : World A P κ) : Shared (TopologyState P) κ Request Answer (Change P) :=
  ⟨w.registry, Option.map stage ∘ w.progress, w.history⟩

omit [DecidableEq A] [DataProvider P] in
theorem shared_move (w : World A P κ) (client : κ) (progress : Option (Progress A))
    (event : Event κ Request Answer (Change P)) :
    shared (w.move client progress event) = (shared w).move client (progress.map stage) event := by
  simp only [shared, World.registry, World.move, Shared.move, Function.comp_update]

omit [DecidableEq κ] [DecidableEq A] [DataProvider P] in
theorem staged {w : World A P κ} {client : κ} {held : Progress A}
    (here : w.progress client = some held) : (shared w).stage client = some (stage held) :=
  congrArg (Option.map stage) here

theorem serve_get_data (schemas : Schemas) (topo : TopologyState P) (base : String) (query : Query)
    {r : Route} {owner : Owner} {endpoint : Endpoint} (asks : dataOf r = some (owner, endpoint)) :
    serve schemas topo (.get base query r) = (topo, .got (providerOf topo owner >>=
      fun provider => endpointGet schemas query provider endpoint)) := by
  rw [route_of_dataOf asks]
  exact congrArg (fun result => (topo, Answer.got result))
    (get_route schemas base topo query owner endpoint)

theorem serve_missing {topo : TopologyState P} {request : Request} {owner : Owner} {error : Error}
    (asks : request.owner = some owner) (missing : providerOf topo owner = .error error) :
    serve schemas topo request = (topo, request.refused error) := by
  cases request with
  | get base query r =>
    obtain ⟨endpoint, data⟩ := owner_of_dataOf asks
    rw [serve_get_data schemas topo base query data, missing]
    rfl
  | put target dataId body =>
    cases asks
    rw [serve, missing]
    rfl

theorem serve_put (schemas : Schemas) {topo : TopologyState P} {owner : Owner} (dataId : String)
    (body : WriteRequest) {provider : P} (found : providerOf topo owner = .ok provider) :
    serve schemas topo (.put owner dataId body) =
      (setProvider topo owner (dataWrite provider dataId body).1,
        .wrote (dataWrite provider dataId body).2) := by
  rw [serve, found]

omit [DecidableEq A] in
/-- Taking effect is serving the request at that moment. -/
theorem settles {w : World A P κ} {client : κ} {request : Request} {answer : Answer}
    {heap : A → P} (called : (shared w).stage client = some (.called request))
    (served : serve schemas w.registry request = (contents heap w.topo, answer)) :
    Internal (serve schemas) alter (shared w)
      (shared { w.settle client request answer with heap }) := by
  have step : Internal (serve schemas) alter (shared w) _ := .effect called
  have value : serve schemas (shared w).value request = (contents heap w.topo, answer) := served
  rw [value] at step
  have moved := shared_move w client (some (.settled request answer))
    (.effect client request answer)
  have same : shared { w.settle client request answer with heap } =
      { shared (w.settle client request answer) with value := contents heap w.topo } := rfl
  rw [same, World.settle, moved]
  exact step

omit [DecidableEq κ] [DecidableEq A] [DataProvider P] in
theorem registry_found {w : World A P κ} {owner : Owner} {box : A}
    (found : providerOf w.topo owner = .ok box) :
    providerOf w.registry owner = .ok (w.heap box) := by
  rw [World.registry, providerOf_contents, found]
  rfl

omit [DecidableEq κ] [DataProvider P] in
/-- A guard call that brings a new box. -/
theorem contents_stored {topo : TopologyState A} {op : TopologyOp A}
    (fresh : ∀ box, brought op = some box → Unowned topo box) (heap : A → P) (provider : P) :
    contents (stored heap op provider) (topo.perform op) =
      (contents heap topo).perform (opContents (fun _ => provider) op) := by
  have before : contents (stored heap op provider) topo = contents heap topo := by
    unfold stored
    cases brings : brought op with
    | none => rfl
    | some box => exact contents_unowned heap (fresh box brings) provider
  have inside : opContents (stored heap op provider) op = opContents (fun _ => provider) op := by
    refine opContents_congr fun box brings => ?_
    rw [stored, brings]
    exact Function.update_self _ _ _
  rw [contents_perform, before, inside]

/-- The acts of the server: requests neither come nor go. -/
def Serves : Act κ → Prop
  | .enter _ | .serve _ | .acquire | .perform | .release | .live => True
  | .arrive _ | .reply _ | .cancel _ => False

/-- What the server does is that requests take effect, or the registry changes. -/
theorem internal_of_serves (sound : Sound s) (step : LiveData.Step schemas act s t)
    (serves : Serves act) :
    Internal (serve schemas) alter (shared s) (shared t) := by
  cases step with
  | arrive | reply | cancel => exact serves.elim
  | answer unlocked waits plain => exact settles (staged waits) rfl
  | @refuse _ client request owner error unlocked waits asks missing =>
    have seen : providerOf s.registry owner = .error error := by
      rw [World.registry, providerOf_contents, missing]
      rfl
    exact settles (staged waits) (serve_missing asks seen)
  | @enter _ client request owner box unlocked waits asks found =>
    have same : Function.update (Option.map stage ∘ s.progress) client
        (some (.called request)) = Option.map stage ∘ s.progress := by
      have here : (Option.map stage ∘ s.progress) client = some (.called request) := staged waits
      rw [← here]
      exact Function.update_eq_self client _
    simp only [shared, Function.comp_update]
    exact congrArg (fun stage => Shared.mk s.registry stage s.history) same ▸ .rest
  | @read _ client base query r owner endpoint box calls asks =>
    -- The box is the one that is found now.
    have found := registry_found (sound.found _ _ _ _ calls).2
    have served := serve_get_data schemas s.registry base query asks
    rw [found] at served
    exact settles (staged calls) served
  | @write _ client owner dataId body box calls =>
    have here := (sound.found _ _ _ _ calls).2
    have served := serve_put schemas dataId body (registry_found here)
    rw [World.registry, ← contents_update s.heap sound.boxes here] at served
    exact settles (staged calls) served
  | acquire unlocked unread => exact .change Change.acquire
  | perform held op provider fresh =>
    have step : Internal (serve schemas) alter (shared s) _ :=
      .change (Change.write (opContents (fun _ => provider) op))
    have value : alter (shared s).value (.write (opContents (fun _ => provider) op)) = _ :=
      (contents_stored fresh s.heap provider).symm
    rw [value] at step
    exact step
  | release held => exact .change Change.release
  | @live _ owner box found provider =>
    have step : Internal (serve schemas) alter (shared s) _ := .change (Change.live owner provider)
    have value : alter (shared s).value (.live owner provider) = _ :=
      (contents_update s.heap sound.boxes found provider).symm
    rw [value] at step
    exact step

/-- A step is one of the requests without the lock, or cannot be seen. -/
theorem simulates (sound : Sound s) (step : LiveData.Step schemas act s t) :
    Linearization.Step (serve schemas) alter (shared s) (shared t) ∨ shared t = shared s := by
  cases act with
  | arrive mover =>
    cases step with
    | arrive _ request idle =>
      refine Or.inl ?_
      rw [shared_move]
      exact .call mover request (congrArg (Option.map stage) idle)
  | reply mover =>
    cases step with
    | reply settled =>
      refine Or.inl ?_
      rw [shared_move]
      exact .reply (staged settled)
  | cancel mover =>
    cases step with
    | cancel =>
      refine Or.inl ?_
      rw [shared_move]
      exact .cancel mover
  | enter | serve | acquire | perform | release | live =>
    exact step_of_internal (internal_of_serves sound step trivial)

theorem consistent_of_steps {heap : A → P} (run : LiveData.Steps schemas (start heap) t) :
    Sound t ∧ Consistent (serve schemas) alter TopologyState.new (shared t) := by
  induction run with
  | refl => exact ⟨sound_start heap, consistent_new _⟩
  | tail _ step ih =>
    obtain ⟨act, step⟩ := step
    refine ⟨sound_step ih.1 step, ?_⟩
    rcases simulates ih.1 step with seen | unseen
    · exact consistent_step ih.2 seen
    · rw [unseen]
      exact ih.2

/-! ### Reading what was written -/

/-- The event is none that could change the provider of an entity. -/
def LeavesAlone (owner : Owner) : Event κ Request Answer (Change P) → Prop
  | .effect _ (.put other _ _) _ => other ≠ owner
  | .change (.write op) => subject op ≠ some owner
  | .change (.live other _) => other ≠ owner
  | _ => True

omit [DecidableEq κ] in
theorem providerOf_apply {topo : TopologyState P} {owner : Owner}
    {event : Event κ Request Answer (Change P)} (alone : LeavesAlone owner event) :
    providerOf (Linearization.apply (serve schemas) alter topo event) owner =
      providerOf topo owner := by
  cases event with
  | effect client request answer =>
    cases request with
    | get base query r => rfl
    | put other dataId body =>
      simp only [Linearization.apply, serve]
      cases providerOf topo other with
      | error error => rfl
      | ok provider => exact providerOf_setProvider_other topo alone _
  | change change =>
    cases change with
    | acquire | release => rfl
    | write op => exact providerOf_perform alone
    | live other provider => exact providerOf_setProvider_other topo alone _
  | call | reply | cancel => rfl

omit [DecidableEq κ] in
theorem providerOf_later {topo : TopologyState P} {owner : Owner}
    {later : List (Event κ Request Answer (Change P))}
    (alone : ∀ event ∈ later, LeavesAlone owner event) :
    providerOf (valueAfter (serve schemas) alter topo later) owner = providerOf topo owner := by
  induction later generalizing topo with
  | nil => rfl
  | cons event rest ih =>
    have first := alone event List.mem_cons_self
    exact (ih fun event member => alone event (List.mem_cons_of_mem _ member)).trans
      (providerOf_apply first)

/-! ### The whole -/

/-- A run looks like requests that are served one at a time from the empty
registry, each between its call and its reply and none in the middle of a batch of
guard calls. Where a handler waits for its provider, that provider is still
registered. What is read after a write is what the write left there, unless the
entity was registered anew, written to or has changed by itself in between. -/
structure Linearizable (schemas : Schemas) (t : World A P κ) : Prop where
  linear : Linearized (serve schemas) alter TopologyState.new t.history
  now : t.registry = valueAfter (serve schemas) alter TopologyState.new t.history
  whole : Excluded t.history
  attached : ∀ client request owner box, t.progress client = some (.calling request owner box) →
    providerOf t.topo owner = .ok box
  readBack : ∀ {before after rest later writer reader owner dataId body base query wrote answer
      provider},
    t.history = before ++ .effect writer (.put owner dataId body) wrote :: rest →
    rest = later ++ .effect reader (.get base query (route owner (.data dataId))) answer :: after →
    (∀ event ∈ later, LeavesAlone owner event) →
    providerOf (valueAfter (serve schemas) alter TopologyState.new before) owner = .ok provider →
    wrote = .wrote (dataWrite provider dataId body).2 ∧
      answer = .got (endpointGet schemas query (dataWrite provider dataId body).1 (.data dataId))

/-- **Requests are linearizable**, over every interleaving of handlers, guard calls
and providers that change by themselves. -/
theorem requests_are_linearizable (schemas : Schemas) {heap : A → P} {t : World A P κ}
    (run : LiveData.Steps schemas (start heap) t) : Linearizable schemas t := by
  obtain ⟨sound, consistent⟩ := consistent_of_steps run
  refine ⟨consistent.linear, consistent.value, sound.excluded,
    fun client request owner box calls => (sound.found client request owner box calls).2, ?_⟩
  intro before after rest later writer reader owner dataId body base query wrote answer provider
    split next alone found
  have written := consistent.linear.answers split
  rw [serve_put schemas dataId body found] at written
  have again : t.history = (before ++ .effect writer (.put owner dataId body) wrote :: later) ++
      .effect reader (.get base query (route owner (.data dataId))) answer :: after := by
    rw [split, next]
    simp
  have answered := consistent.linear.answers again
  -- The provider stays as the write has left it until the read takes effect.
  have left : providerOf (valueAfter (serve schemas) alter TopologyState.new
      (before ++ .effect writer (.put owner dataId body) wrote :: later)) owner =
        .ok (dataWrite provider dataId body).1 := by
    rw [valueAfter_append]
    change providerOf (valueAfter _ _ (serve schemas _ (.put owner dataId body)).1 later) owner = _
    rw [providerOf_later alone, serve_put schemas dataId body found]
    exact providerOf_setProvider found _
  refine ⟨written, ?_⟩
  rw [answered, serve, get_route, left]
  rfl

/-- A lamp that can be switched and looked at, and is off. -/
def readableLamp : DataBuilder.BuiltDataProvider fun _ : Unit => ResourceRuns.switch :=
  DataBuilder.BuiltDataProvider.empty.insert
    { metadata := ⟨"lamp", "Lamp", "currentData", none, [], [], none, true, true⟩
      resource := ⟨.readWrite, (), false⟩ }

/-- It is registered, switched on by one client and read by another. -/
theorem lamp_read_back :
    ∃ t : World Unit (DataBuilder.BuiltDataProvider fun _ : Unit => ResourceRuns.switch) Bool,
      Linearizable ⟨.null, .null, .null⟩ t ∧
        t.history.getLast? = some (.reply false (.get "" {} (.componentData "ecu" "lamp"))
          (.got (.ok (.read { id := "lamp", data := .bool true, schema := none })))) := by
  have run : LiveData.Steps ⟨.null, .null, .null⟩ (start fun _ : Unit => readableLamp) _ :=
    Relation.ReflTransGen.refl
      |>.tail ⟨_, .acquire rfl fun _ _ none => by cases none⟩
      |>.tail ⟨_, .perform rfl
        (.addComponent { id := "ecu", name := "ECU", dataProvider := some () }) readableLamp
        fun _ _ owner => providerOf_new owner ()⟩
      |>.tail ⟨_, .release rfl⟩
      |>.tail ⟨_, .arrive true (.put (.component "ecu") "lamp" ⟨.bool true, none⟩) rfl⟩
      |>.tail ⟨_, .arrive false (.get "" {} (.componentData "ecu" "lamp")) rfl⟩
      |>.tail ⟨_, .enter rfl (rfl : World.progress _ true = _) rfl rfl⟩
      |>.tail ⟨_, .enter rfl (rfl : World.progress _ false = _) rfl rfl⟩
      |>.tail ⟨_, .write (rfl : World.progress _ true = _)⟩
      |>.tail ⟨_, .read (rfl : World.progress _ false = _) rfl⟩
      |>.tail ⟨_, .reply (rfl : World.progress _ true = _)⟩
      |>.tail ⟨_, .reply (rfl : World.progress _ false = _)⟩
  exact ⟨_, requests_are_linearizable _ run, rfl⟩

end OpenSovd.LiveDataProofs
