import OpenSovd.RemoteCallProofs

/-! Location transparency. Apart from what the network does to a request and what
reading does to a result, a call returns what its handler returns on the server, and
a write changes the addressed provider the way writing to it directly would. -/
namespace OpenSovd.RemoteTransparency
open OpenSovd.Support.Records OpenSovd.Http OpenSovd.Provider OpenSovd.Topology
open OpenSovd.Responses OpenSovd.Routes OpenSovd.Handlers OpenSovd.DataRequests
open OpenSovd.BasePath OpenSovd.UriText OpenSovd.UriJoin OpenSovd.Wire OpenSovd.WireProofs
open OpenSovd.Bodies OpenSovd.RemoteCalls OpenSovd.RemoteCallProofs OpenSovd.Support.FormEncoding
open OpenSovd.Versions (versionedUriOf)
open OpenSovd.VersionSelection (Client)

/-! ### What a caller sees -/

/-- A result with a network in between. -/
def arrives {α : Type} (timeout : Option Nat) (carried : Nat × Bool)
    (result : Except ClientError α) : Except ClientError α :=
  if timeout.any (· < carried.1) then .error .timeout
  else if carried.2 then result else .error .service

/-- A handler's result as the client reports it: an error keeps its status and
its body. -/
def outcome {α β : Type} (view : α → β) : Except Error α → Except ClientError β
  | .ok value => .ok (view value)
  | .error error => .error (.apiError error.intoResponse.1 (some error.intoResponse.2))

theorem outcome_map {α β γ : Type} (view : β → γ) (wrap : α → β) (result : Except Error α) :
    outcome view (result.map wrap) = outcome (fun value => view (wrap value)) result := by
  cases result <;> rfl

theorem arrives_bind {α β : Type} (timeout : Option Nat) (carried : Nat × Bool)
    (result : Except ClientError α) (next : α → Except ClientError β) :
    (arrives timeout carried result >>= next) = arrives timeout carried (result >>= next) := by
  unfold arrives
  split
  · rfl
  · split <;> rfl

/-- Refusals of handlers are no success, and their bodies are plain. -/
theorem error_response (error : Error) :
    isSuccess error.intoResponse.1 = false ∧
      record genericError (Body.error error.intoResponse.2).toJson = some error.intoResponse.2 := by
  have plain : settleGenericError error.intoResponse.2 = error.intoResponse.2 := by
    cases error with
    | data cause => cases cause <;> rfl
    | _ => rfl
  refine ⟨?_, (record_settles genericError_settles _).trans (congrArg some plain)⟩
  cases error with
  | data cause => cases cause <;> rfl
  | _ => rfl

section Server
variable {P V : Type} [DataProvider P] (mounted : MountedServer P V) (lossy : List UInt8 → String)
  (network : HttpRequest → Nat × Bool)

/-- What the client makes of a response that arrives. -/
def judged (resp : HttpResponse) : Except ClientError (Option Json) :=
  if isSuccess resp.status then .ok resp.body
  else .error (.apiError resp.status (resp.body.bind (record genericError)))

theorem request_across (baseUri : Uri) (timeout : Option Nat) (req : HttpRequest) :
    request ⟨baseUri, timeout, across mounted lossy network⟩ req =
      arrives timeout (network req) (judged (serve mounted lossy req)) := by
  unfold request arrives across
  dsimp only
  split
  · rfl
  · cases (network req).2 <;> rfl

theorem judged_error {status : Nat} {error : Error} {body : Rejections.ReplyBody}
    (code : status = error.intoResponse.1) (text : body = .error error.intoResponse.2) :
    judged ⟨status, replyJson body⟩ =
      .error (.apiError error.intoResponse.1 (some error.intoResponse.2)) := by
  obtain ⟨refused, reads⟩ := error_response error
  subst code text
  simp only [judged, refused, replyJson, Option.bind_some, reads]
  rfl

theorem judged_reply (result : Except Error Payload) :
    judged ⟨(Rejections.reply (fun payload => ⟨200, .payload payload⟩) result).status,
        replyJson (Rejections.reply (fun payload => ⟨200, .payload payload⟩) result).body⟩ =
      outcome (fun payload => some (payloadJson payload)) result := by
  cases result with
  | ok payload => rfl
  | error error => exact judged_error rfl rfl

/-- What a call returns when its handler's answer arrives. -/
def understood (call : Call) (answer : Except Error Payload) : Except ClientError call.Result :=
  let reply := Rejections.reply (fun payload => ⟨200, .payload payload⟩) answer
  judged ⟨reply.status, replyJson reply.body⟩ >>= decodeBody call.read

/-- A call understands its handler. -/
theorem understood_get (schemas : Schemas) (link : String) (topo : TopologyState P) {call : Call}
    (kept : Kept call) :
    understood call (Handlers.get schemas link topo (received call) (callRoute call)) =
      outcome (settle call) (handle schemas link topo call) := by
  obtain ⟨β, result, wrap, view, routed, handled, reads⟩ := answers schemas link topo call kept
  rw [understood, judged_reply, routed, handled, outcome_map, outcome_map]
  cases result with
  | error error => rfl
  | ok value =>
    change decodeBody call.read (some (payloadJson (wrap value))) = _
    rw [decodeBody, Option.bind_some, reads]
    rfl

/-! ### Reading -/

variable {parser : UriParser} {base : AbsoluteUri} {timeout : Option Nat}

/-- The request of a call, and the base of the links its handler makes. -/
def callRequest (uri : Uri) : HttpRequest := { method := .get, uri }

def callBase (uri : Uri) : String :=
  versionedUriOf (partsOf mounted.config mounted.isTls (callRequest uri))

/-- The server answers a call with its handler's result. -/
theorem judged_call (points : PointsAt base mounted.config) {call : Call} (named : Named call)
    {uri : Uri} (built : buildUriWithQuery parser base.uri call.path call.query = some uri) :
    judged (serve mounted lossy (callRequest uri)) =
      outcome (fun payload => some (payloadJson payload))
        (Handlers.get mounted.server.schemas (callBase mounted uri) mounted.server.topology
          (received call) (callRoute call)) := by
  have text : PathText call.path :=
    call_path call ▸ pathText_route (callRoute_segments call _)
  have shape := built_uri points.plain text (encodedPair_call call) built
  have path : uri.path = popSlash base.path ++ call.path := by rw [shape]
  have query : uri.query.getD "" = joinPairs call.query := by
    rw [shape]
    cases call.query <;> rfl
  have found : matched mounted (callRequest uri) = some (.get (callRoute call)) := by
    have below := routed_below points named
    rw [← call_path call] at below
    change (routed mounted.config.path uri.path).bind (handlerFor .get) = _
    rw [path, below]
    rfl
  have decoded := extractQuery_of_ok lossy (decodeQuery_call lossy call)
  have served : serve mounted lossy (callRequest uri) =
      let reply := Rejections.getReply lossy mounted.server
        (partsOf mounted.config mounted.isTls (callRequest uri)) (callRoute call)
        (uri.query.getD "")
      ⟨reply.status, replyJson reply.body⟩ := by
    rw [serve, found]
    rfl
  rw [served, query]
  simp only [Rejections.getReply, decoded]
  exact judged_reply _

/-- A call returns what its handler returns, unless the URI is refused or the
network loses or delays it. -/
theorem send_eq (points : PointsAt base mounted.config) (call : Call)
    (named : Named call) (kept : Kept call) :
    call.send parser ⟨base.uri, timeout, across mounted lossy network⟩ =
      match buildUriWithQuery parser base.uri call.path call.query with
      | none => .error .invalidUri
      | some uri => arrives timeout (network (callRequest uri))
        (outcome (settle call) (handle mounted.server.schemas (callBase mounted uri)
          mounted.server.topology call)) := by
  unfold Call.send RemoteCalls.get
  cases built : buildUriWithQuery parser base.uri call.path call.query with
  | none => rfl
  | some uri =>
    have sent := request_across mounted lossy network base.uri timeout (callRequest uri)
    have answer := understood_get mounted.server.schemas (callBase mounted uri)
      mounted.server.topology kept
    rw [understood, judged_reply] at answer
    rw [judged_call mounted lossy points named built] at sent
    change (request _ (callRequest uri) >>= _) = _
    rw [sent, arrives_bind]
    exact congrArg (arrives timeout (network (callRequest uri))) answer

/-! ### Writing -/

/-- The body of a write, and its request. -/
def writeBody (value : Json) : Json := WriteRequest.toJson ⟨value, none⟩

def writeDataRequest (uri : Uri) (value : Json) : HttpRequest :=
  { method := .put, uri, contentType := some "application/json", body := some (writeBody value) }

omit [DataProvider P] in
theorem extractBody_write (uri : Uri) (value : Json) :
    Rejections.extractBody (incomingBody mounted (writeDataRequest uri value)) =
      if mounted.withinLimit (writeBody value) then .ok ⟨value, none⟩ else .error 413 := by
  have whole : (incomingBody mounted (writeDataRequest uri value)).withinLimit =
      mounted.withinLimit (writeBody value) := rfl
  unfold Rejections.extractBody
  cases fits : mounted.withinLimit (writeBody value) with
  | false =>
    rw [whole, fits]
    rfl
  | true =>
    rw [whole, fits]
    rfl

/-- Writing to the provider directly. -/
def writeLocally (owner : Owner) (dataId : String) (value : Json) :
    Except Error (Owner × P) × Except Error Unit :=
  match providerOf mounted.server.topology owner with
  | .error error => (.error error, .error error)
  | .ok provider =>
    let (changed, answer) := dataWrite provider dataId ⟨value, none⟩
    (.ok (owner, changed), answer)

theorem writeLocally_answer (owner : Owner) (dataId : String) (value : Json) :
    (writeLocally mounted owner dataId value).2 =
      (providerOf mounted.server.topology owner >>= fun provider =>
        (dataWrite provider dataId ⟨value, none⟩).2) := by
  unfold writeLocally
  cases providerOf mounted.server.topology owner <;> rfl

/-- What a write returns when its handler's answer arrives. -/
def acknowledged (answer : Except Error Unit) : Except ClientError Unit :=
  let reply := Rejections.reply (fun _ => ⟨204, .empty⟩) answer
  judged ⟨reply.status, replyJson reply.body⟩ >>= fun _ => .ok ()

theorem acknowledged_eq (answer : Except Error Unit) : acknowledged answer = outcome id answer := by
  cases answer with
  | ok done => rfl
  | error error =>
    have refused : judged ⟨error.intoResponse.1, replyJson (.error error.intoResponse.2)⟩ = _ :=
      judged_error rfl rfl
    exact congrArg (fun answer => answer >>= fun _ => Except.ok ()) refused

theorem ending_data {owner : Owner} {dataId : String} (named : dataId ≠ "") :
    (route owner (.data dataId)).ending ≠ some "" := by
  cases owner <;> simpa [route, Route.ending] using named

omit [DataProvider P] in
theorem matched_write (points : PointsAt base mounted.config) {owner : Owner} {dataId : String}
    (named : dataId ≠ "") (value : Json) {uri : Uri}
    (built : buildUriWithQuery parser base.uri (dataPath owner dataId) [] = some uri) :
    matched mounted (writeDataRequest uri value) = some (.put owner dataId) := by
  have some : (route owner (.data dataId)).segmentsWith Addressing.clientEncoder.encode ≠ [] := by
    cases owner <;> simp [route, Route.segmentsWith]
  have text : PathText (dataPath owner dataId) := dataPath_eq owner dataId ▸ pathText_route some
  have shape := built_uri points.plain text (by simp) built
  have path : uri.path = popSlash base.path ++ dataPath owner dataId := by rw [shape]
  have below := routed_below points (@ending_data owner dataId named)
  rw [← dataPath_eq owner dataId] at below
  change (routed mounted.config.path uri.path).bind (handlerFor .put) = _
  rw [path, below]
  cases owner <;> rfl

/-- The client gets the answer of a direct write. -/
theorem writeData_eq (points : PointsAt base mounted.config) (owner : Owner) (dataId : String)
    (value : Json) (named : dataId ≠ "") :
    writeData parser ⟨base.uri, timeout, across mounted lossy network⟩ owner dataId value =
      match buildUriWithQuery parser base.uri (dataPath owner dataId) [] with
      | none => .error .invalidUri
      | some uri => arrives timeout (network (writeDataRequest uri value))
        (if mounted.withinLimit (writeBody value) then
          outcome id (writeLocally mounted owner dataId value).2
        else .error (.apiError 413 none)) := by
  unfold writeData put
  cases built : buildUriWithQuery parser base.uri (dataPath owner dataId) [] with
  | none => rfl
  | some uri =>
    have found := matched_write mounted points named value built
    have sent := request_across mounted lossy network base.uri timeout (writeDataRequest uri value)
    have body := extractBody_write mounted uri value
    change (request _ (writeDataRequest uri value) >>= fun _ => .ok ()) = _
    rw [sent, arrives_bind]
    congr 1
    have served : serve mounted lossy (writeDataRequest uri value) =
        let reply := Rejections.putReply mounted.server owner dataId
          (incomingBody mounted (writeDataRequest uri value))
        ⟨reply.status, replyJson reply.body⟩ := by
      rw [serve, found]
      rfl
    rw [served]
    simp only [Rejections.putReply, body]
    cases mounted.withinLimit (writeBody value) with
    | false => rfl
    | true =>
      rw [if_pos rfl, if_pos rfl, writeLocally_answer]
      exact acknowledged_eq _

/-- The addressed provider changes as if it were written to directly. -/
theorem wrote_eq (points : PointsAt base mounted.config) (owner : Owner) (dataId : String)
    (value : Json) (named : dataId ≠ "") {uri : Uri}
    (built : buildUriWithQuery parser base.uri (dataPath owner dataId) [] = some uri) :
    wrote mounted (writeDataRequest uri value) =
      if mounted.withinLimit (writeBody value) then
        (writeLocally mounted owner dataId value).1.toOption
      else none := by
  have found := matched_write mounted points named value built
  have body := extractBody_write mounted uri value
  simp only [wrote, found, body, writeLocally]
  cases mounted.withinLimit (writeBody value) with
  | false => rfl
  | true => cases providerOf mounted.server.topology owner <;> rfl

end Server

/-! ### Both -/

/-- Every call and every write with a data id that is not empty, and with no filter
list that is taken for none, does what it would do on the server, except for what
happens to a request on its way: its URI may be refused, and it or its answer may be
lost or late. A result comes back as its reader settles it, and a body that is too
large changes nothing. -/
structure LocationTransparent {P V : Type} [DataProvider P] (mounted : MountedServer P V)
    (lossy : List UInt8 → String) (network : HttpRequest → Nat × Bool) (parser : UriParser)
    (base : AbsoluteUri) (timeout : Option Nat) : Prop where
  reads : ∀ call : Call, Named call → Kept call →
    call.send parser ⟨base.uri, timeout, across mounted lossy network⟩ =
      match buildUriWithQuery parser base.uri call.path call.query with
      | none => .error .invalidUri
      | some uri => arrives timeout (network (callRequest uri))
        (outcome (settle call) (handle mounted.server.schemas (callBase mounted uri)
          mounted.server.topology call))
  writes : ∀ owner dataId value, dataId ≠ "" →
    writeData parser ⟨base.uri, timeout, across mounted lossy network⟩ owner dataId value =
      match buildUriWithQuery parser base.uri (dataPath owner dataId) [] with
      | none => .error .invalidUri
      | some uri => arrives timeout (network (writeDataRequest uri value))
        (if mounted.withinLimit (writeBody value) then
          outcome id (writeLocally mounted owner dataId value).2
        else .error (.apiError 413 none))
  changes : ∀ owner dataId value uri, dataId ≠ "" →
    buildUriWithQuery parser base.uri (dataPath owner dataId) [] = some uri →
    wrote mounted (writeDataRequest uri value) =
      if mounted.withinLimit (writeBody value) then
        (writeLocally mounted owner dataId value).1.toOption
      else none

/-- **Calls over the network are local calls**, for every client whose base is
where the server's version routes are mounted. -/
theorem calls_are_local {P V : Type} [DataProvider P] (mounted : MountedServer P V)
    (lossy : List UInt8 → String) (network : HttpRequest → Nat × Bool) (parser : UriParser)
    (base : AbsoluteUri) (timeout : Option Nat) (points : PointsAt base mounted.config) :
    LocationTransparent mounted lossy network parser base timeout where
  reads call named kept := send_eq mounted lossy network points call named kept
  writes owner dataId value named :=
    writeData_eq mounted lossy network points owner dataId value named
  changes owner dataId value _ named built := wrote_eq mounted points owner dataId value named built

/-- A server with a component whose lamp and door have no tags, mounted at `/sovd`. -/
def lampGateway :
    MountedServer (DataBuilder.BuiltDataProvider fun _ : Unit => ResourceRuns.switch) Unit where
  server := {
    schemas := ⟨.null, .null, .null⟩
    topology := TopologyState.new.perform
      (.addComponent { id := "ecu", name := "ECU", dataProvider := some DataQueries.untagged })
    vendorInfo := none
    vendorToJson := fun _ => .ok .null
    versionSchema := .null }
  config := ⟨"/sovd", none⟩
  isTls := false
  fallback _ := ⟨404, none⟩
  withinLimit _ := true

/-- A client of the gateway. -/
def lampClient : Client HttpService where
  baseUri := versionedBase.uri
  timeout := some 5
  http := across lampGateway (fun _ => "") fun _ => (3, true)

/-- Through it the lamp is read, and a switch is set. -/
theorem lamp_gateway_transparent :
    LocationTransparent lampGateway (fun _ => "") (fun _ => (3, true)) splitting versionedBase
        (some 5) ∧
      (Call.readData (.component "ecu") "lamp" false).send splitting lampClient =
        .ok { id := "lamp", data := .bool false, schema := none } ∧
      writeData splitting lampClient (.component "ecu") "lamp" (.bool true) = .ok () := by
  have transparent := calls_are_local lampGateway (fun _ => "") (fun _ => (3, true)) splitting
    versionedBase (some 5) ⟨rfl, by rfl⟩
  refine ⟨transparent, ?_, ?_⟩
  · exact (transparent.reads (.readData (.component "ecu") "lamp" false) nofun trivial).trans rfl
  · exact (transparent.writes (.component "ecu") "lamp" (.bool true) (by simp)).trans rfl

end OpenSovd.RemoteTransparency
