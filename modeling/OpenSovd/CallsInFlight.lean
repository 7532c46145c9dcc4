import OpenSovd.LiveDataProofs
import OpenSovd.RemoteTransparency
import OpenSovd.Support.RemoteObject

/-! Calls of the client while they are under way. `Client::request` hands a request
to the connection once and waits for its response, for no longer than the timeout.
The request may not get through; the server drops its handler when the connection
goes away; and a response may come too late. Whatever happens, a call that returns
took effect once while it was waited for, and one that fails at most once. -/
namespace OpenSovd.CallsInFlight
open OpenSovd.Support OpenSovd.Support.Linearization OpenSovd.Support.RemoteObject
open OpenSovd.Provider OpenSovd.Entity OpenSovd.Topology OpenSovd.Responses
open OpenSovd.Routes OpenSovd.Handlers OpenSovd.DataRequests OpenSovd.Boxes
open OpenSovd.LiveData OpenSovd.LiveDataProofs
open OpenSovd.RemoteCalls (Call)
open OpenSovd.RemoteCallProofs (received callRoute Kept)
open OpenSovd.RemoteTransparency (understood acknowledged)

variable {A P κ : Type}

/-- The server, the calls that were made, and their history as the clients have it,
between the effects on the server. -/
structure Net (A P κ : Type) where
  world : World A P κ
  flights : κ → Option (Flight Request Answer)
  history : List (Event κ Request Answer (Change P))

/-- No call has been made, and nothing is registered. -/
def idle (heap : A → P) : Net A P κ := ⟨start heap, fun _ => none, []⟩

section Stepping
variable [DecidableEq κ] [DecidableEq A] [DataProvider P] (schemas : Schemas)

def Net.fly (s : Net A P κ) (call : κ) (flight : Flight Request Answer) : Net A P κ :=
  { s with flights := Function.update s.flights call (some flight) }

/-- A step of a client, of the network or of the server. A client may stop waiting
at any time: its timeout passed, the connection broke, or nobody wants the result. -/
inductive Step : Net A P κ → Net A P κ → Prop where
  | send {s} (call : κ) (request : Request) (fresh : s.flights call = none) :
      Step s { s.fly call ⟨request, .request, .pending⟩ with
        history := s.history ++ [.call call request] }
  | arrive {s call request outcome} (sent : s.flights call = some ⟨request, .request, outcome⟩) :
      Step s { s.fly call ⟨request, .serving, outcome⟩ with
        world := s.world.move call (some (.waiting request)) (.call call request) }
  | work {s world} (act : Act κ) (serves : Serves act) (step : LiveData.Step schemas act s.world world) :
      Step s { s with
        world
        history := s.history ++ world.history.drop s.world.history.length }
  | reply {s call request outcome answer}
      (serving : s.flights call = some ⟨request, .serving, outcome⟩)
      (settled : s.world.progress call = some (.settled request answer)) :
      Step s { s.fly call ⟨request, .answer answer, outcome⟩ with
        world := s.world.move call none (.reply call request answer) }
  | cancel {s call request outcome}
      (serving : s.flights call = some ⟨request, .serving, outcome⟩) :
      Step s { s.fly call
          ⟨request, .lost (answerOf ((s.world.progress call).map stage)), outcome⟩ with
        world := s.world.move call none (.cancel call) }
  | loseRequest {s call request outcome}
      (sent : s.flights call = some ⟨request, .request, outcome⟩) :
      Step s (s.fly call ⟨request, .lost none, outcome⟩)
  | loseResponse {s call request outcome answer}
      (sent : s.flights call = some ⟨request, .answer answer, outcome⟩) :
      Step s (s.fly call ⟨request, .lost (some answer), outcome⟩)
  | receive {s call request answer}
      (sent : s.flights call = some ⟨request, .answer answer, .pending⟩) :
      Step s { s.fly call ⟨request, .answer answer, .returned answer⟩ with
        history := s.history ++ [.reply call request answer] }
  | fail {s call request transit}
      (pending : s.flights call = some ⟨request, transit, .pending⟩) :
      Step s (s.fly call ⟨request, transit, .failed⟩)

end Stepping

/-! ### The server behind the network -/

variable [DecidableEq κ] [DecidableEq A] [DataProvider P] {schemas : Schemas} {s t : Net A P κ}

/-- The request of a call, as the server extracts it. Links in the answer are below
`link`. -/
def asked (link : String) (call : Call) : Request := .get link (received call) (callRoute call)

def written (owner : Owner) (dataId : String) (value : Json) : Request :=
  .put owner dataId ⟨value, none⟩

end OpenSovd.CallsInFlight
