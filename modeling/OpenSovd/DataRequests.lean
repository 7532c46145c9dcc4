import OpenSovd.DataQueries
import OpenSovd.ResourceRuns

/-! Whole requests to the data endpoints, down to the status. The provider has
one error for everything that is not a missing id or a read-only resource, and
that error is a server error: a read of a write-only resource and a value of the
wrong type end there, and nothing else a client sends does. -/
namespace OpenSovd.DataRequests
open OpenSovd.Support OpenSovd.Support.FormEncoding OpenSovd.Provider OpenSovd.Entity
open OpenSovd.Topology OpenSovd.Responses OpenSovd.Routes OpenSovd.Handlers OpenSovd.DataBuilder
open OpenSovd.DataQueries

/-! ### Extractors -/

structure WriteRequest where
  data : Json
  signature : Option String

def fieldsNamed (name : String) (fields : List (String × Json)) : List Json :=
  (fields.filter fun field => field.1 = name).map Prod.snd

/-- The derived `Deserialize`: `data` must be there once, unknown fields are
ignored, and an array gives the fields in order. -/
def WriteRequest.fromJson : Json → Option WriteRequest
  | .object fields =>
    match fieldsNamed "data" fields, fieldsNamed "signature" fields with
    | [data], [] => some ⟨data, none⟩
    | [data], [.null] => some ⟨data, none⟩
    | [data], [.string signature] => some ⟨data, some signature⟩
    | _, _ => none
  | .array [data, .null] => some ⟨data, none⟩
  | .array [data, .string signature] => some ⟨data, some signature⟩
  | _ => none

/-- The fields were there, but the array goes on behind them: this is not a wrong
type, but a document that does not end where it should. -/
def WriteRequest.surplus : Json → Bool
  | .array (_ :: .null :: _ :: _) => true
  | .array (_ :: .string _ :: _ :: _) => true
  | _ => false

/-- A request body: whether it says it is JSON, and what it parses to. -/
structure RequestBody where
  isJson : Bool
  value : Option Json

/-- `Json<WriteRequest>`, or the status of its rejection. -/
def writeRequest (body : RequestBody) : Except Nat WriteRequest :=
  if !body.isJson then .error 415
  else match body.value with
    | none => .error 400
    | some value =>
      match WriteRequest.fromJson value with
      | none => .error (if WriteRequest.surplus value then 400 else 422)
      | some request => .ok request

/-- `Query<DataGroupsQuery>`. An empty category is none. -/
def decodeDataGroupsQuery (lossy : List UInt8 → String) (query : String) :
    Except Error DataGroupsQuery :=
  match given (valuesOf "category" (parsePairs lossy query)) with
  | [] => .ok {}
  | [name] => .ok { category := some (.ofString name) }
  | _ => .error .badQuery

/-- `Query<ReadDataQuery>`. -/
def decodeReadDataQuery (lossy : List UInt8 → String) (query : String) :
    Except Error ReadDataQuery := do
  let includeSchema ← boolParam "include-schema" (parsePairs lossy query)
  return { includeSchema }

/-! ### Requests -/

inductive Method where
  | get
  | put
  deriving DecidableEq, Repr

/-- Whose data a request is about. -/
inductive Owner where
  | component (id : String)
  | app (id : String)
  deriving DecidableEq, Repr

inductive Endpoint where
  | dataCategories
  | dataGroups
  | dataList
  | data (dataId : String)
  deriving DecidableEq, Repr

/-- The route of an endpoint. -/
def route : Owner → Endpoint → Route
  | .component id, .dataCategories => .componentDataCategories id
  | .component id, .dataGroups => .componentDataGroups id
  | .component id, .dataList => .componentDataList id
  | .component id, .data dataId => .componentData id dataId
  | .app id, .dataCategories => .appDataCategories id
  | .app id, .dataGroups => .appDataGroups id
  | .app id, .dataList => .appDataList id
  | .app id, .data dataId => .appData id dataId

structure DataRequest where
  method : Method
  owner : Owner
  endpoint : Endpoint
  query : String
  body : RequestBody

variable (lossy : List UInt8 → String)

/-- What the query extractor of an endpoint decodes; the categories have none. -/
def decodeQuery (endpoint : Endpoint) (query : String) : Except Error Query :=
  match endpoint with
  | .dataCategories => .ok {}
  | .dataGroups => (decodeDataGroupsQuery lossy query).map fun q => { dataGroups := q }
  | .dataList => (decodeDataQuery lossy query).map fun q => { data := q }
  | .data _ => (decodeReadDataQuery lossy query).map fun q => { read := q }

section Handle
variable {P : Type} (schemas : Schemas) (base : String) (topo : TopologyState P)

def providerOf : Owner → Except Error P
  | .component id => componentProvider topo id
  | .app id => appProvider topo id

variable [DataProvider P]

/-- `component_data_write` and `app_data_write`, below their extractors: the
provider as the write leaves it, and the answer. -/
def dataWrite (provider : P) (dataId : String) (body : WriteRequest) : P × Except Error Unit :=
  let (changed, answer) := DataProvider.write provider dataId body.data
  (changed, orDataError answer)

/-- The status of a handler's answer. -/
def statusOf {α : Type} (success : Nat) : Except Error α → Nat
  | .ok _ => success
  | .error error => error.intoResponse.1

def getStatus (request : DataRequest) : Nat :=
  statusOf 200 do
    let query ← decodeQuery lossy request.endpoint request.query
    Handlers.get schemas base topo query (route request.owner request.endpoint)

/-- Only a single item can be written; the other routes have no `PUT`. -/
def putStatus (request : DataRequest) : Nat :=
  match request.endpoint with
  | .data dataId =>
    match writeRequest request.body with
    | .error rejected => rejected
    | .ok body => statusOf 204 do
      let provider ← providerOf topo request.owner
      (dataWrite provider dataId body).2
  | _ => 405

def status (request : DataRequest) : Nat :=
  match request.method with
  | .get => getStatus lossy schemas base topo request
  | .put => putStatus topo request

end Handle

/-! ### Where a server error comes from -/

def IsServerError (code : Nat) : Prop := 500 ≤ code ∧ code < 600

instance (code : Nat) : Decidable (IsServerError code) := by
  unfold IsServerError
  infer_instance

/-- The result carries an internal error. -/
def Internal {α : Type} (result : Except Error α) : Prop :=
  ∃ message, result = .error (.data (.internal message))

/-- Only the internal error has a status of the server's. -/
theorem intoResponse_server_error {error : Error} :
    IsServerError error.intoResponse.1 ↔ ∃ message, error = .data (.internal message) := by
  cases error with
  | data error => cases error <;> simp [IsServerError, Error.intoResponse]
  | entityNotFound | providerNotAvailable | badQuery | topology =>
    simp [IsServerError, Error.intoResponse]

theorem statusOf_server_error {α : Type} {success : Nat} (fine : success < 500)
    {result : Except Error α} : IsServerError (statusOf success result) ↔ Internal result := by
  cases result with
  | ok value => simp [statusOf, IsServerError, Internal, Nat.not_le.mpr fine]
  | error error => simp [statusOf, intoResponse_server_error, Internal]

theorem internal_bind {α β : Type} {first : Except Error α} {rest : α → Except Error β} :
    Internal (first >>= rest) ↔ Internal first ∨ ∃ value, first = .ok value ∧ Internal (rest value) := by
  cases first with
  | ok value => simp [bind, Except.bind, Internal]
  | error error => simp [bind, Except.bind, Internal]

theorem internal_map {α β : Type} {first : Except Error α} {wrap : α → β} :
    Internal (first.map wrap) ↔ Internal first := by
  cases first <;> simp [Except.map, Internal]

theorem internal_orDataError {α : Type} {result : Except DataError α} :
    Internal (orDataError result) ↔ ∃ message, result = .error (.internal message) := by
  cases result <;> simp [orDataError, Internal]

theorem boolParam_not_internal (key : String) (pairs : List (String × String)) :
    ¬ Internal (boolParam key pairs) := by
  unfold boolParam
  split <;> simp [Internal]

theorem decodeQuery_not_internal (endpoint : Endpoint) (query : String) :
    ¬ Internal (decodeQuery lossy endpoint query) := by
  cases endpoint with
  | dataCategories => simp [decodeQuery, Internal]
  | dataGroups =>
    rw [decodeQuery, internal_map, decodeDataGroupsQuery]
    split <;> simp [Internal]
  | dataList =>
    rw [decodeQuery, internal_map, decodeDataQuery, internal_bind]
    rintro (flag | ⟨includeSchema, _, internal⟩)
    · exact boolParam_not_internal _ _ flag
    · simp [Internal, pure, Except.pure] at internal
  | data dataId =>
    rw [decodeQuery, internal_map, decodeReadDataQuery, internal_bind]
    rintro (flag | ⟨includeSchema, _, internal⟩)
    · exact boolParam_not_internal _ _ flag
    · simp [Internal, pure, Except.pure] at internal

theorem orEntityNotFound_not_internal {ε α : Type} (id : String) (lookup : Except ε α) :
    ¬ Internal (orEntityNotFound id lookup) := by
  cases lookup <;> simp [orEntityNotFound, Internal]

theorem dataProvider_not_internal {P : Type} (held : Option P) :
    ¬ Internal (match held with
      | none => throw (.providerNotAvailable "data")
      | some provider => return provider) := by
  cases held <;> simp [Internal, throw, throwThe, MonadExceptOf.throw, pure, Except.pure]

theorem providerOf_not_internal {P : Type} (topo : TopologyState P) (owner : Owner) :
    ¬ Internal (providerOf topo owner) := by
  cases owner with
  | component id =>
    rw [providerOf, componentProvider, internal_bind]
    rintro (missing | ⟨entity, _, internal⟩)
    · exact orEntityNotFound_not_internal _ _ missing
    · exact dataProvider_not_internal _ internal
  | app id =>
    rw [providerOf, appProvider, internal_bind]
    rintro (missing | ⟨entity, _, internal⟩)
    · exact orEntityNotFound_not_internal _ _ missing
    · exact dataProvider_not_internal _ internal

/-! ### Built providers -/

/-- The resource type's own methods report no internal error, and its values
serialize. -/
structure WellBehaved (R : ResourceType) : Prop where
  reads : ∀ state message, R.readable.read state ≠ .error (.internal message)
  serializes : ∀ value, ∃ data, R.readable.toValue value = .ok data
  writes : ∀ state value message, (R.writeable.write state value).2 ≠ .error (.internal message)

variable {ι : Type} {T : ι → ResourceType}

theorem readValue_not_internal (behaved : ∀ i, WellBehaved (T i)) (resource : DataResourceDyn T)
    (message : String) : resource.readValue ≠ .error (.internal message) := by
  intro failed
  unfold DataResourceDyn.readValue at failed
  cases read : (T resource.impl).readable.read resource.state with
  | error error =>
    rw [read] at failed
    cases failed
    exact (behaved _).reads _ _ read
  | ok value =>
    obtain ⟨data, serialized⟩ := (behaved _).serializes value
    rw [read] at failed
    simp [bind, Except.bind, serialized, Except.mapError] at failed

theorem read_internal_iff (behaved : ∀ i, WellBehaved (T i)) {p : BuiltDataProvider T}
    {dataId : String} {includeSchema : Bool} :
    (∃ message, p.read dataId includeSchema = .error (.internal message)) ↔
      ∃ entry, p.findResource dataId = some entry ∧ entry.resource.adapter = .writeOnly := by
  cases held : p.findResource dataId with
  | none => simp [BuiltDataProvider.read_of_missing held]
  | some entry =>
    have own := readValue_not_internal behaved entry.resource
    rw [BuiltDataProvider.read_of_find held]
    cases adapter : entry.resource.adapter with
    | writeOnly => simp [DataResourceDyn.read, adapter, Except.map]
    | readOnly | readWrite =>
      cases value : entry.resource.readValue <;>
        simp_all [DataResourceDyn.read, Except.map]

theorem write_internal_iff (behaved : ∀ i, WellBehaved (T i)) {p : BuiltDataProvider T}
    {dataId : String} {value : Json} :
    (∃ message, (p.write dataId value).2 = .error (.internal message)) ↔
      ∃ entry message, p.findResource dataId = some entry ∧ entry.resource.adapter ≠ .readOnly ∧
        (T entry.resource.impl).writeable.fromValue value = .error message := by
  cases held : p.findResource dataId with
  | none => simp [BuiltDataProvider.write_of_missing held]
  | some entry =>
    have own := (behaved entry.resource.impl).writes entry.resource.state
    rw [BuiltDataProvider.write_of_find held]
    cases adapter : entry.resource.adapter with
    | readOnly => simp [DataResourceDyn.write, adapter]
    | writeOnly | readWrite =>
      cases decoded : (T entry.resource.impl).writeable.fromValue value <;>
        simp_all [DataResourceDyn.write, DataResourceDyn.writeValue]

/-! ### Whole requests -/

/-- An endpoint's answer, once its provider is found. -/
def endpointGet {P : Type} [DataProvider P] (schemas : Schemas) (query : Query) (provider : P) :
    Endpoint → Except Error Payload
  | .dataCategories => do return .dataCategories (← dataCategories provider)
  | .dataGroups => do return .dataGroups (← dataGroups provider query.dataGroups)
  | .dataList => do return .dataList (← dataList schemas provider query.data)
  | .data dataId => do return .read (← dataRead provider dataId query.read)

theorem get_route {P : Type} [DataProvider P] (schemas : Schemas) (base : String)
    (topo : TopologyState P) (query : Query) (owner : Owner) (endpoint : Endpoint) :
    Handlers.get schemas base topo query (route owner endpoint) =
      (providerOf topo owner >>= fun provider => endpointGet schemas query provider endpoint) := by
  cases owner <;> cases endpoint <;> rfl

/-- The request reads a resource that was registered for writing only. -/
def ReadsWriteOnly (topo : TopologyState (BuiltDataProvider T)) (request : DataRequest) : Prop :=
  request.method = .get ∧ ∃ dataId query p entry, request.endpoint = .data dataId ∧
    decodeQuery lossy request.endpoint request.query = .ok query ∧
    providerOf topo request.owner = .ok p ∧ p.findResource dataId = some entry ∧
    entry.resource.adapter = .writeOnly

/-- The request writes a value that does not decode to the type of the resource,
which was registered for writing. -/
def WritesWrongType (topo : TopologyState (BuiltDataProvider T)) (request : DataRequest) : Prop :=
  request.method = .put ∧ ∃ dataId body p entry message, request.endpoint = .data dataId ∧
    writeRequest request.body = .ok body ∧ providerOf topo request.owner = .ok p ∧
    p.findResource dataId = some entry ∧ entry.resource.adapter ≠ .readOnly ∧
    (T entry.resource.impl).writeable.fromValue body.data = .error message

theorem not_internal_ok {α : Type} {result : Except Error α} {value : α} (ok : result = .ok value) :
    ¬ Internal result := by
  rintro ⟨message, failed⟩
  rw [ok] at failed
  cases failed

theorem endpointGet_internal_iff (behaved : ∀ i, WellBehaved (T i)) {schemas : Schemas}
    {query : Query} {p : BuiltDataProvider T} {endpoint : Endpoint} :
    Internal (endpointGet schemas query p endpoint) ↔
      ∃ dataId entry, endpoint = .data dataId ∧ p.findResource dataId = some entry ∧
        entry.resource.adapter = .writeOnly := by
  cases endpoint with
  | dataCategories => exact iff_of_false (not_internal_ok rfl) (by simp)
  | dataGroups => exact iff_of_false (not_internal_ok rfl) (by simp)
  | dataList => exact iff_of_false (not_internal_ok rfl) (by simp)
  | data dataId =>
    have answered : Internal (endpointGet schemas query p (.data dataId)) ↔
        Internal (dataRead p dataId query.read) := by
      unfold endpointGet
      rw [internal_bind]
      refine or_iff_left ?_
      rintro ⟨response, _, internal⟩
      exact not_internal_ok rfl internal
    have forwarded : Internal (dataRead p dataId query.read) ↔
        Internal (orDataError (p.read dataId query.read.includeSchema)) := by
      unfold dataRead
      rw [internal_bind]
      refine or_iff_left ?_
      rintro ⟨value, _, internal⟩
      exact not_internal_ok rfl internal
    rw [answered, forwarded, internal_orDataError, read_internal_iff behaved]
    simp

theorem getStatus_server_error (behaved : ∀ i, WellBehaved (T i)) {schemas : Schemas}
    {base : String} {topo : TopologyState (BuiltDataProvider T)} {request : DataRequest}
    (get : request.method = .get) :
    IsServerError (getStatus lossy schemas base topo request) ↔ ReadsWriteOnly lossy topo request := by
  unfold getStatus
  rw [statusOf_server_error (by omega), internal_bind]
  simp only [get_route, internal_bind, endpointGet_internal_iff behaved,
    decodeQuery_not_internal, providerOf_not_internal, false_or]
  constructor
  · rintro ⟨query, decoded, p, found, dataId, entry, shape, held, adapter⟩
    exact ⟨get, dataId, query, p, entry, shape, decoded, found, held, adapter⟩
  · rintro ⟨_, dataId, query, p, entry, shape, decoded, found, held, adapter⟩
    exact ⟨query, decoded, p, found, dataId, entry, shape, held, adapter⟩

theorem dataWrite_internal_iff (behaved : ∀ i, WellBehaved (T i)) {p : BuiltDataProvider T}
    {dataId : String} {body : WriteRequest} :
    Internal (dataWrite p dataId body).2 ↔
      ∃ entry message, p.findResource dataId = some entry ∧ entry.resource.adapter ≠ .readOnly ∧
        (T entry.resource.impl).writeable.fromValue body.data = .error message := by
  have answered : (dataWrite p dataId body).2 = orDataError (p.write dataId body.data).2 := rfl
  rw [answered, internal_orDataError, write_internal_iff behaved]

/-- No rejection of a body is a server error. -/
theorem writeRequest_error {body : RequestBody} {rejected : Nat}
    (refused : writeRequest body = .error rejected) : rejected = 415 ∨ rejected = 400 ∨ rejected = 422 := by
  unfold writeRequest at refused
  split at refused
  · cases refused
    exact Or.inl rfl
  · split at refused
    · cases refused
      exact Or.inr (Or.inl rfl)
    · split at refused
      · cases refused
        split
        · exact Or.inr (Or.inl rfl)
        · exact Or.inr (Or.inr rfl)
      · cases refused

theorem putStatus_server_error (behaved : ∀ i, WellBehaved (T i))
    {topo : TopologyState (BuiltDataProvider T)} {request : DataRequest}
    (put : request.method = .put) :
    IsServerError (putStatus topo request) ↔ WritesWrongType topo request := by
  unfold putStatus
  split
  · rename_i dataId shape
    split
    · rename_i rejected refused
      refine iff_of_false ?_ ?_
      · rcases writeRequest_error refused with rfl | rfl | rfl <;> decide
      · rintro ⟨_, _, body, _, _, _, _, accepted, _⟩
        rw [refused] at accepted
        cases accepted
    · rename_i body accepted
      rw [statusOf_server_error (by omega), internal_bind]
      simp only [providerOf_not_internal, false_or, dataWrite_internal_iff behaved]
      constructor
      · rintro ⟨p, found, entry, message, held, adapter, failed⟩
        exact ⟨put, dataId, body, p, entry, message, shape, accepted, found, held, adapter, failed⟩
      · rintro ⟨_, dataId', body', p, entry, message, shape', accepted', found, held, adapter, failed⟩
        rw [shape] at shape'
        rw [accepted] at accepted'
        cases shape'
        cases accepted'
        exact ⟨p, found, entry, message, held, adapter, failed⟩
  · rename_i other
    refine iff_of_false (by decide) ?_
    rintro ⟨_, dataId, _, _, _, _, shape, _⟩
    exact other dataId shape

/-- **A client mistake becomes a server error** in two cases only: the request
reads a write-only resource, or writes a value of the wrong type. -/
theorem server_error_only_from (behaved : ∀ i, WellBehaved (T i)) (schemas : Schemas)
    (base : String) (topo : TopologyState (BuiltDataProvider T)) (request : DataRequest) :
    ¬ IsServerError (status lossy schemas base topo request) ↔
      ¬ ReadsWriteOnly lossy topo request ∧ ¬ WritesWrongType topo request := by
  rw [← not_or]
  refine not_congr ?_
  unfold status
  cases method : request.method with
  | get =>
    rw [getStatus_server_error lossy behaved method]
    refine (or_iff_left ?_).symm
    rintro ⟨put, _⟩
    rw [method] at put
    cases put
  | put =>
    rw [putStatus_server_error behaved method]
    refine (or_iff_right ?_).symm
    rintro ⟨get, _⟩
    rw [method] at get
    cases get

theorem switch_behaved : WellBehaved ResourceRuns.switch where
  reads state message failed := by cases failed
  serializes on := ⟨.bool on, rfl⟩
  writes state on message failed := by cases failed

/-- A lamp that can be switched but not looked at. -/
def lamp : BuiltDataProvider fun _ : Unit => ResourceRuns.switch :=
  (DataProviderBuilder.new.writeData "lamp" "Lamp" .currentData () false).build.toOption.getD .empty

def lampTopology : TopologyState (BuiltDataProvider fun _ : Unit => ResourceRuns.switch) :=
  .insertComponent .new "ecu" { id := "ecu", name := "ECU", dataProvider := some lamp }

def lampStatus (method : Method) (data : Json) : Nat :=
  status (fun _ => "") ⟨.null, .null, .null⟩ "" lampTopology {
    method := method
    owner := .component "ecu"
    endpoint := .data "lamp"
    query := ""
    body := ⟨true, some (.object [("data", data)])⟩ }

theorem lamp_switched_on_without_server_error :
    lampStatus .put (.bool true) = 204 ∧ ¬ WritesWrongType lampTopology {
      method := .put
      owner := .component "ecu"
      endpoint := .data "lamp"
      query := ""
      body := ⟨true, some (.object [("data", .bool true)])⟩ } :=
  ⟨rfl, ((server_error_only_from (fun _ => "") (fun _ => switch_behaved) ⟨.null, .null, .null⟩ ""
    lampTopology _).mp (by decide : ¬ IsServerError (lampStatus .put (.bool true)))).2⟩

/-- Looking at the lamp, and setting it to a text. -/
theorem lamp_mistakes_are_server_errors :
    WellBehaved ResourceRuns.switch ∧ lampStatus .get .null = 500 ∧
      lampStatus .put (.string "on") = 500 ∧
      ¬ ∀ method data, ¬ IsServerError (lampStatus method data) := by
  refine ⟨switch_behaved, rfl, rfl, fun never => ?_⟩
  exact never .get .null (by decide)

end OpenSovd.DataRequests
