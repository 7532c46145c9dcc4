import OpenSovd.Boxes
import OpenSovd.Support.Linearization

/-! Requests beside each other. A handler looks up its entity under a read guard
and keeps the guard until its provider has answered. Meanwhile others may be
served by the same provider, and a provider may change by itself; entities come
and go under the write guard. Over it stands the server that serves one request
at a time. -/
namespace OpenSovd.LiveData
open OpenSovd.Support OpenSovd.Support.Linearization
open OpenSovd.Provider OpenSovd.Entity OpenSovd.Topology OpenSovd.Responses
open OpenSovd.Routes OpenSovd.Handlers OpenSovd.DataRequests OpenSovd.Boxes
open TopologyState

/-- A request whose query and body have been extracted. -/
inductive Request where
  | get (base : String) (query : Query) (route : Route)
  | put (owner : Owner) (dataId : String) (body : WriteRequest)

inductive Answer where
  | got (result : Except Error Payload)
  | wrote (result : Except Error Unit)

/-- The endpoint of a route that asks a provider. -/
def dataOf : Route → Option (Owner × Endpoint)
  | .componentDataCategories id => some (.component id, .dataCategories)
  | .componentDataGroups id => some (.component id, .dataGroups)
  | .componentDataList id => some (.component id, .dataList)
  | .componentData id dataId => some (.component id, .data dataId)
  | .appDataCategories id => some (.app id, .dataCategories)
  | .appDataGroups id => some (.app id, .dataGroups)
  | .appDataList id => some (.app id, .dataList)
  | .appData id dataId => some (.app id, .data dataId)
  | _ => none

/-- Whose provider a request asks. -/
def Request.owner : Request → Option Owner
  | .get _ _ route => (dataOf route).map Prod.fst
  | .put owner _ _ => some owner

def Request.refused : Request → Error → Answer
  | .get _ _ _, error => .got (.error error)
  | .put _ _ _, error => .wrote (.error error)

/-- What else happens to the registry: batches of guard calls, and providers that
change by themselves. -/
inductive Change (P : Type) where
  | acquire
  | write (op : TopologyOp P)
  | release
  | live (owner : Owner) (provider : P)

/-! ### One request at a time -/

section Alone
variable {P : Type}

def alter (topo : TopologyState P) : Change P → TopologyState P
  | .acquire | .release => topo
  | .write op => topo.perform op
  | .live owner provider => setProvider topo owner provider

/-- The handler of a request, run alone. -/
def serve [DataProvider P] (schemas : Schemas) (topo : TopologyState P) :
    Request → TopologyState P × Answer
  | .get base query route => (topo, .got (Handlers.get schemas base topo query route))
  | .put owner dataId body =>
    match providerOf topo owner with
    | .error error => (topo, .wrote (.error error))
    | .ok provider =>
      let (changed, answer) := dataWrite provider dataId body
      (setProvider topo owner changed, .wrote answer)

end Alone

/-! ### Interleaved -/

/-- A handler before its read guard, with the provider it has found, and before
its return. -/
inductive Progress (A : Type) where
  | waiting (request : Request)
  | calling (request : Request) (owner : Owner) (box : A)
  | settled (request : Request) (answer : Answer)

variable {A P κ : Type}

def Progress.Holds : Progress A → Prop
  | .waiting _ => False
  | .calling _ _ _ | .settled _ _ => True

/-- The registry with its lock, what the boxes of its providers hold, and the
handlers of the requests in progress. -/
structure World (A P κ : Type) where
  topo : TopologyState A
  heap : A → P
  writer : Bool
  progress : κ → Option (Progress A)
  history : List (Event κ Request Answer (Change P))

/-- The registry as its handlers see it. -/
def World.registry (w : World A P κ) : TopologyState P := contents w.heap w.topo

/-- Nothing is registered yet. -/
def start (heap : A → P) : World A P κ := ⟨.new, heap, false, fun _ => none, []⟩

/-- What a step does to the lock. -/
inductive Act (κ : Type) where
  | arrive (client : κ)
  | enter (client : κ)
  | serve (client : κ)
  | reply (client : κ)
  | cancel (client : κ)
  | acquire
  | perform
  | release
  | live

section Stepping
variable [DecidableEq κ] [DecidableEq A]

def World.move (w : World A P κ) (client : κ) (progress : Option (Progress A))
    (event : Event κ Request Answer (Change P)) : World A P κ :=
  { w with progress := Function.update w.progress client progress, history := w.history ++ [event] }

/-- The handler has its answer. -/
def World.settle (w : World A P κ) (client : κ) (request : Request) (answer : Answer) :
    World A P κ :=
  w.move client (some (.settled request answer)) (.effect client request answer)

/-- The box of a provider that comes with a guard call holds this. -/
def stored (heap : A → P) (op : TopologyOp A) (provider : P) : A → P :=
  match brought op with
  | none => heap
  | some box => Function.update heap box provider

variable [DataProvider P] (schemas : Schemas)

/-- A step of some handler, of who holds the write guard, or of a provider. A
request may be cancelled wherever its handler waits. -/
inductive Step : Act κ → World A P κ → World A P κ → Prop where
  | arrive {w} (client : κ) (request : Request) (idle : w.progress client = none) :
      Step (.arrive client) w (w.move client (some (.waiting request)) (.call client request))
  | answer {w client base query route} (unlocked : w.writer = false)
      (waits : w.progress client = some (.waiting (.get base query route)))
      (plain : dataOf route = none) :
      Step (.enter client) w (w.settle client (.get base query route)
        (.got (Handlers.get schemas base w.registry query route)))
  | refuse {w client request owner error} (unlocked : w.writer = false)
      (waits : w.progress client = some (.waiting request)) (asks : request.owner = some owner)
      (missing : providerOf w.topo owner = .error error) :
      Step (.enter client) w (w.settle client request (request.refused error))
  | enter {w client request owner box} (unlocked : w.writer = false)
      (waits : w.progress client = some (.waiting request)) (asks : request.owner = some owner)
      (found : providerOf w.topo owner = .ok box) :
      Step (.enter client) w { w with
        progress := Function.update w.progress client (some (.calling request owner box)) }
  | read {w client base query route owner endpoint box}
      (calls : w.progress client = some (.calling (.get base query route) owner box))
      (asks : dataOf route = some (owner, endpoint)) :
      Step (.serve client) w (w.settle client (.get base query route)
        (.got (endpointGet schemas query (w.heap box) endpoint)))
  | write {w client owner dataId body box}
      (calls : w.progress client = some (.calling (.put owner dataId body) owner box)) :
      Step (.serve client) w { w.settle client (.put owner dataId body)
          (.wrote (dataWrite (w.heap box) dataId body).2) with
        heap := Function.update w.heap box (dataWrite (w.heap box) dataId body).1 }
  | reply {w client request answer}
      (settled : w.progress client = some (.settled request answer)) :
      Step (.reply client) w (w.move client none (.reply client request answer))
  | cancel {w} (client : κ) : Step (.cancel client) w (w.move client none (.cancel client))
  | acquire {w} (unlocked : w.writer = false)
      (unread : ∀ client held, w.progress client = some held → ¬ held.Holds) :
      Step .acquire w { w with writer := true, history := w.history ++ [.change .acquire] }
  | perform {w} (held : w.writer = true) (op : TopologyOp A) (provider : P)
      (fresh : ∀ box, brought op = some box → Unowned w.topo box) :
      Step .perform w { w with
        topo := w.topo.perform op
        heap := stored w.heap op provider
        history := w.history ++ [.change (.write (opContents (fun _ => provider) op))] }
  | release {w} (held : w.writer = true) :
      Step .release w { w with writer := false, history := w.history ++ [.change .release] }
  | live {w owner box} (found : providerOf w.topo owner = .ok box) (provider : P) :
      Step .live w { w with
        heap := Function.update w.heap box provider
        history := w.history ++ [.change (.live owner provider)] }

abbrev Steps : World A P κ → World A P κ → Prop :=
  Relation.ReflTransGen fun w next => ∃ act, LiveData.Step schemas act w next

end Stepping

end OpenSovd.LiveData
