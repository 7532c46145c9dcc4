import OpenSovd.Bodies
import OpenSovd.Rejections
import OpenSovd.UriJoin
import OpenSovd.VersionSelection

/-! Calls of the client against a mounted server. The client joins a path and a
query to its base URI, sends the request and reads the answer's body by the type
the caller asked for; the server's router strips its base path, matches what is
left and hands the request to its handler. -/
namespace OpenSovd.RemoteCalls
open OpenSovd.Support.Records OpenSovd.Http OpenSovd.Provider OpenSovd.Entity OpenSovd.Topology
open OpenSovd.Responses OpenSovd.Routes OpenSovd.Handlers OpenSovd.Addressing OpenSovd.DataQueries
open OpenSovd.DataRequests OpenSovd.BasePath OpenSovd.Support.PercentEncoding
open OpenSovd.Versions (RequestParts VersionInfo versionedUriOf)
open OpenSovd.Rejections (Matched SovdRequest IncomingBody ReplyBody Reply)
open OpenSovd.VersionSelection (Client)
open OpenSovd.UriText OpenSovd.UriJoin OpenSovd.Wire OpenSovd.Bodies

/-! ### HTTP -/

structure HttpRequest where
  method : Method
  uri : Uri
  contentType : Option String := none
  body : Option Json := none

/-- A status, and what the body parses to if it is a JSON document. -/
structure HttpResponse where
  status : Nat
  body : Option Json

/-- When the outcome of a request is known, and the response if there is one. -/
structure Delivery where
  after : Nat
  response : Option HttpResponse

abbrev HttpService := HttpRequest → Delivery

/-! ### The client -/

/-- Client error type, as far as requests go. -/
inductive ClientError where
  | apiError (status : Nat) (error : Option GenericError)
  | service
  | timeout
  | json
  | invalidUri

def isSuccess (status : Nat) : Bool := 200 ≤ status && status < 300

/-- `Client::request`. A refusal keeps its status, and its body if it is an error
body. -/
def request (client : Client HttpService) (req : HttpRequest) :
    Except ClientError (Option Json) :=
  let delivery := client.http req
  if client.timeout.any (· < delivery.after) then .error .timeout
  else match delivery.response with
    | none => .error .service
    | some resp =>
      if isSuccess resp.status then .ok resp.body
      else .error (.apiError resp.status (resp.body.bind (record genericError)))

/-- `serde_json::from_slice` on the body of a success. -/
def decodeBody {α : Type} (read : Json → Option α) (body : Option Json) : Except ClientError α :=
  match body.bind read with
  | none => .error .json
  | some value => .ok value

variable (parser : UriParser)

/-- `Client::get`. -/
def get {α : Type} (client : Client HttpService) (path : String) (query : List (String × String))
    (read : Json → Option α) : Except ClientError α :=
  match buildUriWithQuery parser client.baseUri path query with
  | none => .error .invalidUri
  | some uri => do decodeBody read (← request client { method := .get, uri })

/-- `Client::put`. The body of the answer is not looked at. -/
def put (client : Client HttpService) (path : String) (query : List (String × String))
    (body : Json) : Except ClientError Unit :=
  match buildUriWithQuery parser client.baseUri path query with
  | none => .error .invalidUri
  | some uri => do
    let _ ← request client
      { method := .put, uri, contentType := some "application/json", body := some body }
    return ()

/-! ### The typed requests -/

/-- The reading requests of the client. -/
inductive Call where
  | listComponents (schema : Bool)
  | listApps (schema : Bool)
  | listAreas (schema : Bool)
  | hosts (componentId : String)
  | isLocatedOn (appId : String)
  | contains (areaId : String)
  | belongsTo (owner : Owner)
  | listData (owner : Owner) (schema : Bool) (groups : List String)
      (categories : List DataCategory) (tags : List String)
  | readData (owner : Owner) (dataId : String) (schema : Bool)
  | dataCategories (owner : Owner)
  | dataGroups (owner : Owner)

/-- What a call returns. -/
abbrev Call.Result : Call → Type
  | .listComponents _ | .listApps _ | .listAreas _ => Response Entities
  | .hosts _ | .isLocatedOn _ | .contains _ | .belongsTo _ => Entities
  | .listData .. => Response DataList
  | .readData .. => ReadResponse
  | .dataCategories _ => DataCategories
  | .dataGroups _ => DataGroups

/-- The listing a `list_data` request is built from. -/
def listDataRequest (owner : Owner) (schema : Bool) (groups : List String)
    (categories : List DataCategory) (tags : List String) : ListDataRequest :=
  match owner with
  | .component id => { componentListData id with schema, groups, categories, tags }
  | .app id => { appListData id with schema, groups, categories, tags }

/-- `DataRequest`. -/
def dataPath (owner : Owner) (dataId : String) : String :=
  match owner with
  | .component id => (Client.component id).data dataId
  | .app id => (Client.app id).data dataId

namespace Call

def path : Call → String
  | listComponents _ => "/components"
  | listApps _ => "/apps"
  | listAreas _ => "/areas"
  | hosts id => (Client.component id).hosts
  | isLocatedOn id => (Client.app id).isLocatedOn
  | contains id => (Client.area id).contains
  | belongsTo (.component id) => (Client.component id).belongsTo
  | belongsTo (.app id) => (Client.app id).belongsTo
  | listData owner schema groups categories tags =>
    (listDataRequest owner schema groups categories tags).path
  | readData owner dataId _ => dataPath owner dataId
  | dataCategories (.component id) => (Client.component id).dataCategories
  | dataCategories (.app id) => (Client.app id).dataCategories
  | dataGroups (.component id) => (Client.component id).dataGroups
  | dataGroups (.app id) => (Client.app id).dataGroups

def query : Call → List (String × String)
  | listComponents schema | listApps schema | listAreas schema => schemaQuery schema
  | readData _ _ schema => schemaQuery schema
  | listData owner schema groups categories tags =>
    (listDataRequest owner schema groups categories tags).query
  | hosts _ | isLocatedOn _ | contains _ | belongsTo _ | dataCategories _ | dataGroups _ => []

/-- What the body is read as. -/
def read : (call : Call) → Json → Option call.Result
  | listComponents _ | listApps _ | listAreas _ => response (items entityReference)
  | hosts _ | isLocatedOn _ | contains _ | belongsTo _ => record (items entityReference)
  | listData .. => response (items dataMetadata)
  | readData .. => record readResponse
  | dataCategories _ => record (items dataCategoryInformation)
  | dataGroups _ => record (items group)

/-- `send`. -/
def send (client : Client HttpService) (call : Call) : Except ClientError call.Result :=
  get parser client call.path call.query call.read

end Call

/-- `DataRequest::write` and its `send`: the value is signed by nobody. -/
def writeData (client : Client HttpService) (owner : Owner) (dataId : String) (value : Json) :
    Except ClientError Unit :=
  put parser client (dataPath owner dataId) [] (WriteRequest.toJson ⟨value, none⟩)

/-! ### The server's router -/

/-- What a request's path is matched to. -/
inductive Target where
  | versionInfo
  | route (route : Route)

/-- The segments of the path the routes are mounted at. -/
def baseSegments (base : String) : List String :=
  match normalizeBase base with
  | none => [""]
  | some outer => segments (popSlash outer)

/-- `build_router`: the version routes and the version endpoint, nested at the
base path. -/
def routed (base path : String) : Option Target :=
  match (segments path).dropPrefix? (baseSegments base) with
  | some ["version-info"] => some .versionInfo
  | some ("v1" :: rest) => (matchRoute ("" :: rest)).map .route
  | _ => none

/-- The handler for a method; all routes are read-only but single data items. -/
def handlerFor : Method → Target → Option Matched
  | .get, .versionInfo => some .versionInfo
  | .get, .route route => some (.get route)
  | .put, .route (.componentData id dataId) => some (.put (.component id) dataId)
  | .put, .route (.appData id dataId) => some (.put (.app id) dataId)
  | .put, _ => none

/-! ### The server -/

/-- A server as it is mounted. What the router answers by itself and how much of
a body is accepted is up to the web framework. -/
structure MountedServer (P V : Type) where
  server : Rejections.Server P V
  config : BaseConfig
  isTls : Bool
  fallback : HttpRequest → HttpResponse
  withinLimit : Json → Bool

/-- The head of the request as it arrives: the authority is in the `Host` header. -/
def partsOf (config : BaseConfig) (isTls : Bool) (req : HttpRequest) : RequestParts where
  method := match req.method with
    | .get => "GET"
    | .put => "PUT"
  uri := { path := req.uri.path, query := req.uri.query }
  headers := (req.uri.authority.map fun authority => ("host", bytes authority)).toList
  extensions := Extensions.empty.insert .baseUri (advertised config isTls)

def replyJson : ReplyBody → Option Json
  | .empty | .text => none
  | .payload payload => some (Body.payload payload).toJson
  | .versionInfo response => some (Body.versionInfo response).toJson
  | .error cause => some (Body.error cause).toJson

section Serve
variable {P V : Type} (mounted : MountedServer P V)

def incomingBody (req : HttpRequest) : IncomingBody where
  sent := ⟨req.contentType = some "application/json", req.body⟩
  withinLimit := req.body.all mounted.withinLimit

def matched (req : HttpRequest) : Option Matched :=
  (routed mounted.config.path req.uri.path).bind (handlerFor req.method)

variable (lossy : List UInt8 → String) [DataProvider P]

def serve (req : HttpRequest) : HttpResponse :=
  match matched mounted req with
  | none => mounted.fallback req
  | some handler =>
    let reply := Rejections.serve lossy mounted.server
      (partsOf mounted.config mounted.isTls req)
      { matched := handler, query := req.uri.query.getD "", body := incomingBody mounted req }
    ⟨reply.status, replyJson reply.body⟩

/-- The provider a request writes to, as the write leaves it. -/
def wrote (req : HttpRequest) : Option (Owner × P) :=
  match matched mounted req with
  | some (.put owner dataId) =>
    match Rejections.extractBody (incomingBody mounted req),
        providerOf mounted.server.topology owner with
    | .ok body, .ok provider => some (owner, (dataWrite provider dataId body).1)
    | _, _ => none
  | _ => none

/-- A network in front of the server: it takes its time, and may lose a request
or its answer. -/
def across (network : HttpRequest → Nat × Bool) : HttpService := fun req =>
  ⟨(network req).1, if (network req).2 then some (serve mounted lossy req) else none⟩

end Serve

/-! ### The same calls without a network -/

section Local
variable {P V : Type} (schemas : Schemas) (base : String) (topo : TopologyState P) [DataProvider P]

/-- The handler of a call, on the query its arguments stand for. -/
def handle : (call : Call) → Except Error call.Result
  | .listComponents schema => .ok (componentList schemas base topo { includeSchema := schema })
  | .listApps schema => .ok (appList schemas base topo { includeSchema := schema })
  | .listAreas schema => .ok (areaList schemas base topo { includeSchema := schema })
  | .hosts id => (componentHosts schemas base topo id {}).map Response.data
  | .isLocatedOn id => (appIsLocatedOn schemas base topo id {}).map Response.data
  | .contains id => (areaContains schemas base topo id {}).map Response.data
  | .belongsTo (.component id) => (componentBelongsTo schemas base topo id {}).map Response.data
  | .belongsTo (.app id) => (appBelongsTo schemas base topo id {}).map Response.data
  | .listData owner schema groups categories tags => do
    dataList schemas (← providerOf topo owner)
      (listDataRequest owner schema groups categories tags).asked
  | .readData owner dataId schema => do
    dataRead (← providerOf topo owner) dataId { includeSchema := schema }
  | .dataCategories owner => do
    return (← Handlers.dataCategories (← providerOf topo owner)).data
  | .dataGroups owner => do
    return (← Handlers.dataGroups (← providerOf topo owner) {}).data

end Local

end OpenSovd.RemoteCalls
