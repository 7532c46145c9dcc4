import OpenSovd.DataRequests
import OpenSovd.Versions

/-! Whole answers, with the body of a rejection. A handler's own errors all turn
into the SOVD error body, and so does a query that does not decode where the
extractor is wrapped. An extractor that is not wrapped answers for itself, in
plain text. -/
namespace OpenSovd.Rejections
open OpenSovd.Support.FormEncoding OpenSovd.Provider OpenSovd.Topology OpenSovd.Responses
open OpenSovd.Routes OpenSovd.Handlers OpenSovd.DataQueries OpenSovd.DataRequests OpenSovd.Versions

/-! ### Requests -/

/-- The handler a request is matched to. -/
inductive Matched where
  | versionInfo
  | get (route : Route)
  | put (owner : Owner) (dataId : String)

/-- A body as it arrives; the extractor stops reading at its limit. -/
structure IncomingBody where
  sent : RequestBody
  withinLimit : Bool

structure SovdRequest where
  matched : Matched
  query : String := ""
  body : IncomingBody := ⟨⟨false, none⟩, true⟩

/-! ### Answers -/

inductive ReplyBody where
  | empty
  | payload (payload : Payload)
  | versionInfo (response : Response (VersionInfo Json))
  | error (error : GenericError)
  | text

structure Reply where
  status : Nat
  body : ReplyBody

def errorReply (error : Error) : Reply := ⟨error.intoResponse.1, .error error.intoResponse.2⟩

def reply {α : Type} (success : α → Reply) : Except Error α → Reply
  | .ok value => success value
  | .error error => errorReply error

/-! ### Extractors -/

/-- `Query` answers a rejection itself; `WithRejection` hands it to the error. -/
inductive QueryExtractor where
  | query
  | withRejection
  deriving DecidableEq, Repr

/-- The query extractor in the signature of a route's `GET` handler. -/
def queryExtractor : Route → Option QueryExtractor
  | .rootCapabilities => some .withRejection
  | .componentList => some .query
  | .componentCapabilities _ => some .withRejection
  | .componentHosts _ => some .query
  | .componentBelongsTo _ => some .query
  | .appList => some .query
  | .appCapabilities _ => some .withRejection
  | .appIsLocatedOn _ => some .query
  | .appBelongsTo _ => some .query
  | .areaList => some .query
  | .areaCapabilities _ => some .withRejection
  | .areaContains _ => some .query
  | .componentDataCategories _ | .appDataCategories _ => none
  | .componentDataGroups _ | .appDataGroups _ => some .withRejection
  | .componentDataList _ | .appDataList _ => some .withRejection
  | .componentData _ _ | .appData _ _ => some .withRejection

variable (lossy : List UInt8 → String)

def includeSchemaParam (query : String) : Except Error Bool :=
  boolParam "include-schema" (parsePairs lossy query)

/-- `Query<EntitiesQuery>`. -/
def decodeEntitiesQuery (query : String) : Except Error EntitiesQuery := do
  let includeSchema ← includeSchemaParam lossy query
  return { includeSchema, tags := valuesOf "tags" (parsePairs lossy query) }

/-- `Query<EntityCapabilitiesQuery>`. -/
def decodeEntityCapabilitiesQuery (query : String) : Except Error EntityCapabilitiesQuery := do
  return { includeSchema := ← includeSchemaParam lossy query }

/-- `Query<VersionInfoQuery>`. -/
def decodeVersionInfoQuery (query : String) : Except Error VersionInfoQuery := do
  return { includeSchema := ← includeSchemaParam lossy query }

/-- The query of a route's `GET` handler. -/
def decodeQuery (route : Route) (query : String) : Except Error Query :=
  match route with
  | .rootCapabilities | .componentCapabilities _ | .appCapabilities _ | .areaCapabilities _ =>
    (decodeEntityCapabilitiesQuery lossy query).map fun q => { capabilities := q }
  | .componentList | .componentHosts _ | .componentBelongsTo _
  | .appList | .appIsLocatedOn _ | .appBelongsTo _ | .areaList | .areaContains _ =>
    (decodeEntitiesQuery lossy query).map fun q => { entities := q }
  | .componentDataCategories _ | .appDataCategories _ => .ok {}
  | .componentDataGroups _ | .appDataGroups _ =>
    (decodeDataGroupsQuery lossy query).map fun q => { dataGroups := q }
  | .componentDataList _ | .appDataList _ =>
    (decodeDataQuery lossy query).map fun q => { data := q }
  | .componentData _ _ | .appData _ _ =>
    (decodeReadDataQuery lossy query).map fun q => { read := q }

/-- The extractor at work, with the answer of its rejection. -/
def extractQuery (route : Route) (query : String) : Except Reply Query :=
  match queryExtractor route with
  | none => .ok {}
  | some .query => (decodeQuery lossy route query).mapError fun _ => ⟨400, .text⟩
  | some .withRejection => (decodeQuery lossy route query).mapError errorReply

/-- `Json<WriteRequest>`, or the status of its rejection. -/
def extractBody (body : IncomingBody) : Except Nat WriteRequest :=
  if body.sent.isJson && !body.withinLimit then .error 413 else writeRequest body.sent

/-! ### The handlers behind their extractors -/

/-- A server with vendor information of any type that serializes. -/
structure Server (P V : Type) where
  schemas : Schemas
  topology : TopologyState P
  vendorInfo : Option V
  vendorToJson : V → Except String Json
  versionSchema : Json

section Serve
variable {P V : Type} (server : Server P V) (parts : RequestParts)

def vendorJson : Except String (Option Json) :=
  match server.vendorInfo with
  | none => .ok none
  | some vendor => (server.vendorToJson vendor).map some

/-- The response body is serialized last. -/
def versionInfoReply (query : String) : Reply :=
  reply (fun decoded => match vendorJson server with
    | .error _ => ⟨500, .text⟩
    | .ok vendor => ⟨200, .versionInfo (versionInfo server.versionSchema vendor parts decoded)⟩)
    (decodeVersionInfoQuery lossy query)

variable [DataProvider P]

def getReply (route : Route) (query : String) : Reply :=
  match extractQuery lossy route query with
  | .error rejection => rejection
  | .ok decoded => reply (fun payload => ⟨200, .payload payload⟩)
    (Handlers.get server.schemas (versionedUriOf parts) server.topology decoded route)

def putReply (owner : Owner) (dataId : String) (body : IncomingBody) : Reply :=
  match extractBody body with
  | .error status => ⟨status, .text⟩
  | .ok request => reply (fun _ => ⟨204, .empty⟩) do
    let provider ← providerOf server.topology owner
    (dataWrite provider dataId request).2

def serve (request : SovdRequest) : Reply :=
  match request.matched with
  | .versionInfo => versionInfoReply lossy server parts request.query
  | .get route => getReply lossy server parts route request.query
  | .put owner dataId => putReply server owner dataId request.body

end Serve

/-! ### Which rejections are SOVD errors -/

/-- The request's handler decodes the query, and fails. -/
def Malformed (request : SovdRequest) : Prop :=
  match request.matched with
  | .versionInfo => ∃ error, decodeVersionInfoQuery lossy request.query = .error error
  | .get route => ∃ error, decodeQuery lossy route request.query = .error error
  | .put _ _ => False

/-- Every answer that is no success has the error body, and a malformed query is
an incomplete request. -/
structure RejectsAsSovd {P V : Type} [DataProvider P] (server : Server P V) (parts : RequestParts)
    (request : SovdRequest) : Prop where
  body : ¬ (200 ≤ (serve lossy server parts request).status ∧
      (serve lossy server parts request).status < 300) →
    ∃ error, (serve lossy server parts request).body = .error error
  query : Malformed lossy request → (serve lossy server parts request).status = 400 ∧
    ∃ error, (serve lossy server parts request).body = .error error ∧
      error.errorCode.asStr = "incomplete-request"

/-- An extractor, or the serialization of the vendor information, answers for
itself. -/
def AnswersItself {P V : Type} (server : Server P V) (request : SovdRequest) : Prop :=
  match request.matched with
  | .versionInfo => ¬ Malformed lossy request ∧ ∃ vendor message,
      server.vendorInfo = some vendor ∧ server.vendorToJson vendor = .error message
  | .get route => queryExtractor route = some .query ∧ Malformed lossy request
  | .put _ _ => ∃ status, extractBody request.body = .error status

/-! ### Handlers -/

/-- An answer that is no success has the error body. -/
def ErrorBody (answer : Reply) : Prop :=
  ¬ (200 ≤ answer.status ∧ answer.status < 300) → ∃ error, answer.body = .error error

theorem errorBody_reply {α : Type} {success : α → Reply} (fine : ∀ value, ErrorBody (success value))
    (result : Except Error α) : ErrorBody (reply success result) := by
  cases result with
  | ok value => exact fine value
  | error error => exact fun _ => ⟨_, rfl⟩

theorem errorBody_success {status : Nat} {body : ReplyBody} (success : 200 ≤ status ∧ status < 300) :
    ErrorBody ⟨status, body⟩ := fun refused => absurd success refused

theorem not_errorBody_text {status : Nat} (refused : 400 ≤ status) :
    ¬ ErrorBody ⟨status, .text⟩ := by
  intro fine
  obtain ⟨error, same⟩ := fine fun success => by
    simp only at success
    omega
  cases same

theorem includeSchemaParam_error {query : String} {error : Error}
    (failed : includeSchemaParam lossy query = .error error) : error = .badQuery := by
  unfold includeSchemaParam boolParam at failed
  split at failed <;> cases failed
  rfl

/-- Decoders of one flag and optional parameters fail on the flag. -/
theorem map_includeSchema_error {α : Type} {query : String} {rest : Bool → α} {error : Error}
    (failed : (includeSchemaParam lossy query >>= fun flag => pure (rest flag)) = .error error) :
    error = .badQuery := by
  cases flag : includeSchemaParam lossy query with
  | ok value =>
    rw [flag] at failed
    cases failed
  | error own =>
    rw [flag] at failed
    cases failed
    exact includeSchemaParam_error lossy flag

theorem map_error {α β : Type} {result : Except Error α} {wrap : α → β} {error : Error}
    (failed : result.map wrap = .error error) : result = .error error := by
  cases result <;> cases failed
  rfl

/-- Whatever is wrong with a query, the error is the same. -/
theorem decodeQuery_error {route : Route} {query : String} {error : Error}
    (failed : decodeQuery lossy route query = .error error) : error = .badQuery := by
  cases route with
  | rootCapabilities | componentCapabilities | appCapabilities | areaCapabilities
  | componentList | componentHosts | componentBelongsTo | appList | appIsLocatedOn | appBelongsTo
  | areaList | areaContains | componentDataList | appDataList | componentData | appData =>
    exact map_includeSchema_error lossy (map_error failed)
  | componentDataCategories | appDataCategories => cases failed
  | componentDataGroups | appDataGroups =>
    have own := map_error failed
    unfold decodeDataGroupsQuery at own
    split at own <;> cases own
    rfl

/-- Only the categories have no extractor, and they decode nothing. -/
theorem decodeQuery_of_no_extractor {route : Route} {query : String}
    (none : queryExtractor route = none) : decodeQuery lossy route query = .ok {} := by
  cases route with
  | componentDataCategories | appDataCategories => rfl
  | _ => cases none

section Serve
variable {P V : Type} {server : Server P V} {parts : RequestParts}

theorem versionInfoReply_of_ok {query : String} {decoded : VersionInfoQuery}
    (read : decodeVersionInfoQuery lossy query = .ok decoded) :
    ErrorBody (versionInfoReply lossy server parts query) ↔
      ¬ ∃ vendor message, server.vendorInfo = some vendor ∧
        server.vendorToJson vendor = .error message := by
  unfold versionInfoReply vendorJson
  rw [read]
  cases held : server.vendorInfo with
  | none => simp [reply, ErrorBody]
  | some vendor =>
    cases written : server.vendorToJson vendor with
    | error message => simp [reply, Except.map, written, not_errorBody_text]
    | ok json => simp [reply, Except.map, written, ErrorBody]

variable [DataProvider P]

theorem getReply_of_ok {route : Route} {query : String} {decoded : Query}
    (read : extractQuery lossy route query = .ok decoded) :
    ErrorBody (getReply lossy server parts route query) := by
  unfold getReply
  rw [read]
  exact errorBody_reply (fun _ => errorBody_success (by omega)) _

/-- An extractor succeeds, or rejects in its own way. -/
theorem extractQuery_cases (route : Route) (query : String) :
    (∃ decoded, extractQuery lossy route query = .ok decoded ∧
      ∀ error, decodeQuery lossy route query ≠ .error error) ∨
    (∃ error, decodeQuery lossy route query = .error error ∧
      ((queryExtractor route = some .query ∧ extractQuery lossy route query = .error ⟨400, .text⟩) ∨
        (queryExtractor route = some .withRejection ∧
          extractQuery lossy route query = .error (errorReply .badQuery)))) := by
  cases read : decodeQuery lossy route query with
  | ok decoded =>
    refine Or.inl ?_
    unfold extractQuery
    cases queryExtractor route with
    | none => exact ⟨{}, rfl, nofun⟩
    | some kind => cases kind <;> exact ⟨decoded, by rw [read]; rfl, nofun⟩
  | error error =>
    refine Or.inr ⟨error, rfl, ?_⟩
    have bad := decodeQuery_error lossy read
    cases kind : queryExtractor route with
    | none =>
      rw [decodeQuery_of_no_extractor lossy kind] at read
      cases read
    | some kind' =>
      unfold extractQuery
      cases kind' with
      | query => exact Or.inl ⟨rfl, by rw [kind, read]; rfl⟩
      | withRejection => exact Or.inr ⟨rfl, by rw [kind, read, bad]; rfl⟩

/-- A rejected body is answered in plain text, by a status of its own. -/
theorem extractBody_error {body : IncomingBody} {status : Nat}
    (refused : extractBody body = .error status) : 400 ≤ status := by
  unfold extractBody at refused
  split at refused
  · cases refused
    decide
  · rcases writeRequest_error refused with rfl | rfl | rfl <;> decide

theorem putReply_errorBody_iff {owner : Owner} {dataId : String} {body : IncomingBody} :
    ErrorBody (putReply server owner dataId body) ↔
      ¬ ∃ status, extractBody body = .error status := by
  unfold putReply
  cases accepted : extractBody body with
  | error status => simp [not_errorBody_text (extractBody_error accepted)]
  | ok request =>
    refine iff_of_true (errorBody_reply (fun _ => errorBody_success (by omega)) _) ?_
    simp

theorem incomplete_request : (errorReply .badQuery).status = 400 ∧
    ∃ error, (errorReply .badQuery).body = .error error ∧
      error.errorCode.asStr = "incomplete-request" := ⟨rfl, _, rfl, rfl⟩

theorem versionInfo_rejects_iff {request : SovdRequest} (matched : request.matched = .versionInfo) :
    RejectsAsSovd lossy server parts request ↔ ¬ AnswersItself lossy server request := by
  have served : serve lossy server parts request = versionInfoReply lossy server parts request.query := by
    simp [serve, matched]
  cases read : decodeVersionInfoQuery lossy request.query with
  | ok decoded =>
    have wellFormed : ¬ Malformed lossy request := by simp [Malformed, matched, read]
    have itself : AnswersItself lossy server request ↔ ∃ vendor message,
        server.vendorInfo = some vendor ∧ server.vendorToJson vendor = .error message := by
      simp [AnswersItself, matched, wellFormed]
    have own_error : ErrorBody (versionInfoReply lossy server parts request.query) ↔
        ¬ ∃ vendor message, server.vendorInfo = some vendor ∧
          server.vendorToJson vendor = .error message := versionInfoReply_of_ok lossy read
    rw [itself, ← own_error, ← served]
    exact ⟨fun sovd => sovd.body, fun body => ⟨body, fun malformed => absurd malformed wellFormed⟩⟩
  | error error =>
    have malformed : Malformed lossy request := by simp [Malformed, matched, read]
    have bad : error = .badQuery := map_includeSchema_error lossy read
    have answer : serve lossy server parts request = errorReply .badQuery := by
      rw [served, versionInfoReply, read, bad]
      rfl
    refine iff_of_true ⟨fun _ => ?_, fun _ => ?_⟩ (by simp [AnswersItself, matched, malformed])
    · rw [answer]
      exact ⟨_, rfl⟩
    · rw [answer]
      exact incomplete_request

theorem get_rejects_iff {request : SovdRequest} {route : Route} (matched : request.matched = .get route) :
    RejectsAsSovd lossy server parts request ↔ ¬ AnswersItself lossy server request := by
  have served : serve lossy server parts request = getReply lossy server parts route request.query := by
    simp [serve, matched]
  have malformed : Malformed lossy request ↔
      ∃ error, decodeQuery lossy route request.query = .error error := by
    simp [Malformed, matched]
  have itself : AnswersItself lossy server request ↔
      queryExtractor route = some .query ∧ Malformed lossy request := by
    simp [AnswersItself, matched]
  rcases extractQuery_cases lossy route request.query with
    ⟨decoded, read, clean⟩ | ⟨error, failed, ⟨plain, text⟩ | ⟨wrapped, rejected⟩⟩
  · have wellFormed : ¬ Malformed lossy request := by simpa [malformed] using clean
    refine iff_of_true ⟨?_, fun bad => absurd bad wellFormed⟩ (by simp [itself, wellFormed])
    rw [served]
    exact getReply_of_ok lossy read
  · have answer : serve lossy server parts request = ⟨400, .text⟩ := by
      rw [served, getReply, text]
    refine iff_of_false (fun sovd => ?_) (by simp [itself, plain, malformed, failed])
    have body := sovd.body
    rw [answer] at body
    exact not_errorBody_text (by omega) body
  · have answer : serve lossy server parts request = errorReply .badQuery := by
      rw [served, getReply, rejected]
    refine iff_of_true ⟨fun _ => ?_, fun _ => ?_⟩ (by simp [itself, wrapped])
    · rw [answer]
      exact ⟨_, rfl⟩
    · rw [answer]
      exact incomplete_request

/-- **Every rejection is a SOVD error** but those an extractor or the serializer
answers itself: a malformed query on an entity listing, a body that is no write
request, and vendor information that does not serialize. -/
theorem rejects_as_sovd_iff (server : Server P V) (parts : RequestParts) (request : SovdRequest) :
    RejectsAsSovd lossy server parts request ↔ ¬ AnswersItself lossy server request := by
  cases matched : request.matched with
  | versionInfo => exact versionInfo_rejects_iff lossy matched
  | get route => exact get_rejects_iff lossy matched
  | put owner dataId =>
    have served : serve lossy server parts request = putReply server owner dataId request.body := by
      simp [serve, matched]
    have wellFormed : ¬ Malformed lossy request := by simp [Malformed, matched]
    have itself : AnswersItself lossy server request ↔
        ∃ status, extractBody request.body = .error status := by
      simp [AnswersItself, matched]
    have own_error : ErrorBody (putReply server owner dataId request.body) ↔
        ¬ ∃ status, extractBody request.body = .error status := putReply_errorBody_iff
    rw [itself, ← own_error, ← served]
    exact ⟨fun sovd => sovd.body, fun body => ⟨body, fun malformed => absurd malformed wellFormed⟩⟩

end Serve

def emptyServer : Server FixedListing Unit :=
  ⟨⟨.null, .null, .null⟩, .new, none, fun _ => .ok .null, .null⟩

/-- A request that asks for the schema with a flag that is no boolean. -/
def malformedFlag (route : Route) : SovdRequest :=
  { matched := .get route, query := "include-schema=maybe" }

def emptyAnswer (request : SovdRequest) : Reply :=
  serve (fun _ => "") emptyServer { method := "GET", uri := { path := "/" } } request

/-- The same flag is an incomplete request to a data list and a plain text error
to an entity list. -/
theorem malformed_flag_answered_in_text :
    (∃ error, emptyAnswer (malformedFlag (.componentDataList "ecu")) = ⟨400, .error error⟩ ∧
      error.errorCode = .incompleteRequest) ∧
    emptyAnswer (malformedFlag .componentList) = ⟨400, .text⟩ ∧
    ¬ ∀ request, RejectsAsSovd (fun _ => "") emptyServer { method := "GET", uri := { path := "/" } }
      request := by
  have text : emptyAnswer (malformedFlag .componentList) = ⟨400, .text⟩ := by rfl
  refine ⟨⟨_, rfl, rfl⟩, text, fun uniform => ?_⟩
  have body : ErrorBody (emptyAnswer (malformedFlag .componentList)) := (uniform _).body
  rw [text] at body
  exact not_errorBody_text (by omega) body

end OpenSovd.Rejections
