import OpenSovd.RemoteCalls

/-! A call over the network answers as its handler does. The joined URI has the
base's path in front, the router takes that path off again, the handler's query
is the one the arguments stand for, and the body is read as the type that was
written. -/
namespace OpenSovd.RemoteCallProofs
open OpenSovd.Support.Records OpenSovd.Support.PercentEncoding OpenSovd.Support.FormEncoding
open OpenSovd.Http OpenSovd.Provider OpenSovd.Entity OpenSovd.Topology OpenSovd.Responses
open OpenSovd.Routes OpenSovd.Handlers OpenSovd.Addressing OpenSovd.DataQueries
open OpenSovd.DataRequests OpenSovd.BasePath OpenSovd.UriText OpenSovd.UriJoin OpenSovd.Wire
open OpenSovd.WireProofs OpenSovd.Bodies OpenSovd.RemoteCalls
open OpenSovd.VersionSelection (Client)

/-! ### The router -/

/-- A route is mounted behind the segments of the base. -/
theorem segments_mountPath (base : String) {raw : List String} (proper : raw ≠ [""])
    (whole : ∀ segment ∈ raw, '/' ∉ segment.toList) :
    segments (mountPath base (innerPath raw)) = baseSegments base ++ "v1" :: raw := by
  have version : ∀ segment ∈ "v1" :: raw, '/' ∉ segment.toList :=
    List.forall_mem_cons.mpr ⟨by simp, whole⟩
  have inner : nestPath "/v1" (innerPath raw) = pathOf ("v1" :: raw) := nest_version proper
  unfold mountPath baseSegments
  cases normalizeBase base with
  | none => exact (congrArg segments inner).trans (segments_pathOf version)
  | some outer =>
    simp only [inner]
    by_cases slash : outer.toList.getLast? = some '/'
    · have joined : nestPath outer (pathOf ("v1" :: raw)) = outer ++ ("v1" ++ pathOf raw) := by
        rw [nestPath, if_pos slash]
        apply String.toList_inj.mp
        simp [pathOf_cons]
      have shape : outer ++ ("v1" ++ pathOf raw) = popSlash outer ++ pathOf ("v1" :: raw) := by
        rw [← popSlash_of_slash slash]
        have popped : popSlash (popSlash outer ++ "/") = popSlash outer := by
          rw [popSlash_of_slash slash]
        rw [popped]
        apply String.toList_inj.mp
        simp [pathOf_cons]
      rw [joined, shape, segments_append_pathOf version]
    · have open_ : popSlash outer = outer := by rw [popSlash, if_neg slash]
      have more : pathOf ("v1" :: raw) ≠ "/" := by
        intro same
        simpa [pathOf_cons] using congrArg String.toList same
      rw [nestPath, if_neg slash, if_neg more, open_, segments_append_pathOf version]

theorem routed_of_segments {base path : String} {raw : List String} {route : Route}
    (split : segments path = baseSegments base ++ "v1" :: raw)
    (matched : matchRoute ("" :: raw) = some route) : routed base path = some (.route route) := by
  rw [routed, split, List.dropPrefix?_append_of_beq _ BEq.rfl]
  simp only [matched, Option.map_some]

/-! ### The request's URI -/

/-- The URI a request is sent to, when the base has no query of its own. -/
theorem built_uri {parser : UriParser} {base : AbsoluteUri} {path : String}
    {pairs : List (String × String)} {uri : Uri} (plainBase : base.query = none)
    (text : PathText path) (encoded : ∀ pair ∈ pairs, EncodedPair pair)
    (built : buildUriWithQuery parser base.uri path pairs = some uri) :
    uri = ⟨some base.origin.scheme, some base.origin.authority, popSlash base.path ++ path,
      if pairs.isEmpty then none else some (joinPairs pairs)⟩ := by
  have plain := popped_chars base text
  have rest : restText base = base.path := by simp [restText, plainBase]
  have read := buildUriWithQuery_eq text built
  rw [rest] at read
  cases pairs with
  | nil =>
    have tail : tailText [] = "" := rfl
    rwa [tail, String.append_empty, pathPart_of_plain plain, queryPart_of_plain plain] at read
  | cons pair more =>
    have tail : tailText (pair :: more) = "?" ++ joinPairs (pair :: more) := rfl
    rwa [tail, ← String.append_assoc, pathPart_append_query plain,
      queryPart_append_query plain (hash_not_mem_joinPairs encoded)] at read

theorem encodedPair_encode {key : String} (plain : ∀ char ∈ key.toList, char ∉ ['&', '#'])
    (text : String) : EncodedPair (key, Client.encode text) := by
  have ampersand := separator_not_mem componentSet.ampersand text
  have hash := query_not_mem_segment (.inr rfl) text
  refine ⟨plain, fun char member => ?_⟩
  simp only [List.mem_cons, List.not_mem_nil, or_false, not_or]
  exact ⟨fun same => ampersand (same ▸ member), fun same => hash (same ▸ member)⟩

theorem encodedPair_schema (schema : Bool) : ∀ pair ∈ schemaQuery schema, EncodedPair pair := by
  cases schema <;> simp [schemaQuery, EncodedPair]

theorem encodedPair_query (request : ListDataRequest) :
    ∀ pair ∈ request.query, EncodedPair pair := by
  intro pair member
  simp only [ListDataRequest.query, List.mem_append, List.mem_map] at member
  rcases member with ((⟨g, _, rfl⟩ | ⟨c, _, rfl⟩) | ⟨t, _, rfl⟩) | schema
  · exact encodedPair_encode (by simp) g
  · exact encodedPair_encode (by simp) c.asStr
  · exact encodedPair_encode (by simp) t
  · exact encodedPair_schema request.schema pair schema

/-! ### The route of a call -/

def ownerRoute (component app : String → Route) : Owner → Route
  | .component id => component id
  | .app id => app id

/-- The route a call is meant for. -/
def callRoute : Call → Route
  | .listComponents _ => .componentList
  | .listApps _ => .appList
  | .listAreas _ => .areaList
  | .hosts id => .componentHosts id
  | .isLocatedOn id => .appIsLocatedOn id
  | .contains id => .areaContains id
  | .belongsTo owner => ownerRoute .componentBelongsTo .appBelongsTo owner
  | .listData owner _ _ _ _ => route owner .dataList
  | .readData owner dataId _ => route owner (.data dataId)
  | .dataCategories owner => route owner .dataCategories
  | .dataGroups owner => route owner .dataGroups

theorem request_path (id dataId path : String) (target : Route)
    (member : (path, target) ∈ Client.requests id dataId) :
    path = pathOf (target.segmentsWith clientEncoder.encode) := requests_path member

theorem dataPath_eq (owner : Owner) (dataId : String) :
    dataPath owner dataId =
      pathOf ((route owner (.data dataId)).segmentsWith clientEncoder.encode) := by
  cases owner with
  | component id =>
    exact request_path id dataId _ _ (show ((Client.component id).data dataId,
      Route.componentData id dataId) ∈ _ by simp [Client.requests])
  | app id =>
    exact request_path id dataId _ _ (show ((Client.app id).data dataId,
      Route.appData id dataId) ∈ _ by simp [Client.requests])

/-- A call's path addresses its route. -/
theorem call_path (call : Call) :
    call.path = pathOf ((callRoute call).segmentsWith clientEncoder.encode) := by
  cases call with
  | listComponents | listApps | listAreas => rfl
  | readData owner dataId => exact dataPath_eq owner dataId
  | hosts id =>
    exact request_path id "" _ _ (show ((Client.component id).hosts,
      Route.componentHosts id) ∈ _ by simp [Client.requests])
  | isLocatedOn id =>
    exact request_path id "" _ _ (show ((Client.app id).isLocatedOn,
      Route.appIsLocatedOn id) ∈ _ by simp [Client.requests])
  | contains id =>
    exact request_path id "" _ _ (show ((Client.area id).contains,
      Route.areaContains id) ∈ _ by simp [Client.requests])
  | belongsTo owner =>
    cases owner with
    | component id =>
      exact request_path id "" _ _ (show ((Client.component id).belongsTo,
        Route.componentBelongsTo id) ∈ _ by simp [Client.requests])
    | app id =>
      exact request_path id "" _ _ (show ((Client.app id).belongsTo,
        Route.appBelongsTo id) ∈ _ by simp [Client.requests])
  | listData owner =>
    cases owner with
    | component id =>
      exact request_path id "" _ _ (show ((Client.component id).listData,
        Route.componentDataList id) ∈ _ by simp [Client.requests])
    | app id =>
      exact request_path id "" _ _ (show ((Client.app id).listData,
        Route.appDataList id) ∈ _ by simp [Client.requests])
  | dataCategories owner =>
    cases owner with
    | component id =>
      exact request_path id "" _ _ (show ((Client.component id).dataCategories,
        Route.componentDataCategories id) ∈ _ by simp [Client.requests])
    | app id =>
      exact request_path id "" _ _ (show ((Client.app id).dataCategories,
        Route.appDataCategories id) ∈ _ by simp [Client.requests])
  | dataGroups owner =>
    cases owner with
    | component id =>
      exact request_path id "" _ _ (show ((Client.component id).dataGroups,
        Route.componentDataGroups id) ∈ _ by simp [Client.requests])
    | app id =>
      exact request_path id "" _ _ (show ((Client.app id).dataGroups,
        Route.appDataGroups id) ∈ _ by simp [Client.requests])

/-- A call's path does not end in an empty data id; the entity's id may be empty. -/
def Named (call : Call) : Prop := (callRoute call).ending ≠ some ""

/-- No filter list of a call is taken for none. -/
def Kept : Call → Prop
  | .listData owner schema groups categories tags =>
    (listDataRequest owner schema groups categories tags).Kept
  | _ => True

/-- The client's base is where the version routes are mounted, with or without a
slash behind it. -/
structure PointsAt (base : AbsoluteUri) (config : BaseConfig) : Prop where
  plain : base.query = none
  mounted : popSlash base.path = mountPath config.path "/"

/-- A path to a route is a path for requests. -/
theorem pathText_route {target : Route} (some : target.segmentsWith clientEncoder.encode ≠ []) :
    PathText (pathOf (target.segmentsWith clientEncoder.encode)) := by
  constructor
  · cases shape : target.segmentsWith clientEncoder.encode with
    | nil => exact absurd shape some
    | cons segment rest => simp [pathOf_cons]
  · intro char member
    simp only [List.mem_cons, List.not_mem_nil, or_false, not_or]
    exact ⟨fun same => query_not_mem_path (.inl same) target member,
      fun same => query_not_mem_path (.inr same) target member⟩

theorem callRoute_segments (call : Call) (encode : String → String) :
    (callRoute call).segmentsWith encode ≠ [] := by
  cases call with
  | belongsTo owner | listData owner | readData owner | dataCategories owner | dataGroups owner =>
    cases owner <;> simp [callRoute, ownerRoute, route, Route.segmentsWith]
  | _ => simp [callRoute, Route.segmentsWith]

/-- A path below the base is taken to the route it addresses. -/
theorem routed_below {base : AbsoluteUri} {config : BaseConfig} (points : PointsAt base config)
    {target : Route} (named : target.ending ≠ some "") :
    routed config.path (popSlash base.path ++ pathOf (target.segmentsWith clientEncoder.encode)) =
      some (.route target) := by
  have whole := slash_not_mem_segments clientEncoder target
  have root : ([] : List String) ≠ [""] := by simp
  have mount := segments_mountPath config.path root (by simp)
  change segments (mountPath config.path "/") = _ at mount
  refine routed_of_segments ?_ (matchRoute_segments clientEncoder named)
  rw [segments_append_pathOf whole, points.mounted, mount, List.append_assoc,
    List.singleton_append]

/-! ### The query of a call -/

/-- The query the handler gets. -/
def received : Call → Query
  | .listComponents schema | .listApps schema | .listAreas schema =>
    { entities := { includeSchema := schema } }
  | .listData owner schema groups categories tags =>
    { data := (listDataRequest owner schema groups categories tags).received }
  | .readData _ _ schema => { read := { includeSchema := schema } }
  | _ => {}

variable (lossy : List UInt8 → String)

theorem parsePairs_schema (schema : Bool) :
    parsePairs lossy (joinPairs (schemaQuery schema)) = schemaQuery schema := by
  refine parsePairs_joinPairs (List.forall₂_same.mpr fun pair member => ?_)
  cases schema with
  | false => cases member
  | true =>
    cases List.mem_singleton.mp member
    exact ⟨writes_plain (by simp), writes_plain (by simp)⟩

theorem boolParam_schema (schema : Bool) :
    boolParam "include-schema" (schemaQuery schema) = .ok schema := by
  cases schema <;> rfl

theorem decodeEntitiesQuery_schema (schema : Bool) :
    Rejections.decodeEntitiesQuery lossy (joinPairs (schemaQuery schema)) =
      .ok { includeSchema := schema } := by
  have tags : valuesOf "tags" (schemaQuery schema) = [] := by cases schema <;> rfl
  simp only [Rejections.decodeEntitiesQuery, Rejections.includeSchemaParam, parsePairs_schema,
    boolParam_schema, tags]
  rfl

theorem decodeReadDataQuery_schema (schema : Bool) :
    decodeReadDataQuery lossy (joinPairs (schemaQuery schema)) =
      .ok { includeSchema := schema } := by
  simp only [decodeReadDataQuery, parsePairs_schema, boolParam_schema]
  rfl

theorem map_of_ok {ε α β : Type} {result : Except ε α} {value : α} (wrap : α → β)
    (done : result = .ok value) : result.map wrap = .ok (wrap value) := by
  rw [done]
  rfl

/-- The extractors read what the client wrote. -/
theorem decodeQuery_call (call : Call) :
    Rejections.decodeQuery lossy (callRoute call) (joinPairs call.query) = .ok (received call) := by
  have listed (schema : Bool) := map_of_ok (fun q => ({ entities := q } : Query))
    (decodeEntitiesQuery_schema lossy schema)
  cases call with
  | listComponents schema | listApps schema | listAreas schema => exact listed schema
  | hosts | isLocatedOn | contains => exact listed false
  | belongsTo owner => cases owner <;> exact listed false
  | listData owner schema groups categories tags =>
    have read := map_of_ok (fun q => ({ data := q } : Query))
      (decode_query lossy (listDataRequest owner schema groups categories tags))
    cases owner <;> exact read
  | readData owner dataId schema =>
    have read := map_of_ok (fun q => ({ read := q } : Query))
      (decodeReadDataQuery_schema lossy schema)
    cases owner <;> exact read
  | dataCategories owner => cases owner <;> rfl
  | dataGroups owner => cases owner <;> rfl

theorem extractQuery_of_ok {target : Route} {query : String} {decoded : Query}
    (read : Rejections.decodeQuery lossy target query = .ok decoded) :
    Rejections.extractQuery lossy target query = .ok decoded := by
  unfold Rejections.extractQuery
  cases kind : Rejections.queryExtractor target with
  | none =>
    have none : Rejections.decodeQuery lossy target query = .ok {} :=
      Rejections.decodeQuery_of_no_extractor lossy kind
    rw [← Except.ok.inj (none.symm.trans read)]
  | some extractor => cases extractor <;> simp only [read] <;> rfl

theorem encodedPair_call (call : Call) : ∀ pair ∈ call.query, EncodedPair pair := by
  cases call with
  | listComponents schema | listApps schema | listAreas schema => exact encodedPair_schema schema
  | readData owner dataId schema => exact encodedPair_schema schema
  | listData owner schema groups categories tags => exact encodedPair_query _
  | _ => exact nofun

/-! ### The answer to a call -/

/-- What reading does to a result. -/
def settle : (call : Call) → call.Result → call.Result
  | .listComponents _ | .listApps _ | .listAreas _ => settleResponse (settleItems id)
  | .hosts _ | .isLocatedOn _ | .contains _ | .belongsTo _ => settleItems id
  | .listData .. => settleResponse (settleItems settleMetadata)
  | .readData .. => settleReadResponse
  | .dataCategories _ => settleItems settleCategoryInformation
  | .dataGroups _ => settleItems settleGroup

section Answers
variable {P : Type} [DataProvider P] (schemas : Schemas) (base : String) (topo : TopologyState P)

/-- The route's handler and the call's have one result in common: the one wraps
it up, and reading that up gives what the other sees of it. -/
def AnswersWith (call : Call) {β : Type} (result : Except Error β) (wrap : β → Payload)
    (view : β → call.Result) : Prop :=
  Handlers.get schemas base topo (received call) (callRoute call) = result.map wrap ∧
    handle schemas base topo call = result.map view ∧
    ∀ value, call.read (payloadJson (wrap value)) = some (settle call (view value))

theorem entities_read (value : Response Entities) :
    response (items entityReference) (payloadJson (.entities value)) =
        some (settleResponse (settleItems id) value) ∧
      record (items entityReference) (payloadJson (.entities value)) =
        some (settleItems id value.data) := by
  have settles := items_settles entityReference_settles
  exact ⟨response_settles settles (by simp [items]) value,
    payload_settles settles (by simp [items]) value⟩

theorem bind_map {ε α β γ : Type} (first : Except ε α) (next : α → Except ε β) (wrap : β → γ) :
    (do return wrap (← next (← first))) = (first >>= next).map wrap := by
  cases first with
  | error error => rfl
  | ok value =>
    change (do return wrap (← next value)) = (next value).map wrap
    cases next value <;> rfl

theorem map_id_of {ε α : Type} (result : Except ε α) : result = result.map id := by
  cases result <;> rfl

theorem answers (call : Call) (kept : Kept call) : ∃ (β : Type) (result : Except Error β) (wrap : β → Payload)
    (view : β → call.Result), AnswersWith schemas base topo call result wrap view := by
  cases call with
  | listComponents schema =>
    exact ⟨_, .ok (componentList schemas base topo { includeSchema := schema }), .entities, id,
      rfl, rfl, fun value => (entities_read value).1⟩
  | listApps schema =>
    exact ⟨_, .ok (appList schemas base topo { includeSchema := schema }), .entities, id,
      rfl, rfl, fun value => (entities_read value).1⟩
  | listAreas schema =>
    exact ⟨_, .ok (areaList schemas base topo { includeSchema := schema }), .entities, id,
      rfl, rfl, fun value => (entities_read value).1⟩
  | hosts id =>
    exact ⟨_, componentHosts schemas base topo id {}, .entities, Response.data,
      rfl, rfl, fun value => (entities_read value).2⟩
  | isLocatedOn id =>
    exact ⟨_, appIsLocatedOn schemas base topo id {}, .entities, Response.data,
      rfl, rfl, fun value => (entities_read value).2⟩
  | contains id =>
    exact ⟨_, areaContains schemas base topo id {}, .entities, Response.data,
      rfl, rfl, fun value => (entities_read value).2⟩
  | belongsTo owner =>
    cases owner with
    | component id =>
      exact ⟨_, componentBelongsTo schemas base topo id {}, .entities, Response.data,
        rfl, rfl, fun value => (entities_read value).2⟩
    | app id =>
      exact ⟨_, appBelongsTo schemas base topo id {}, .entities, Response.data,
        rfl, rfl, fun value => (entities_read value).2⟩
  | listData owner schema groups categories tags =>
    have same : (fun provider : P => dataList schemas provider
        (listDataRequest owner schema groups categories tags).received) =
          fun provider => dataList schemas provider
            (listDataRequest owner schema groups categories tags).asked :=
      funext fun provider => dataList_received schemas provider kept
    refine ⟨_, providerOf topo owner >>= fun provider => dataList schemas provider
      (listDataRequest owner schema groups categories tags).received, .dataList, id, ?_,
      ?_, response_settles (items_settles dataMetadata_settles) (by simp [items])⟩
    · cases owner <;> exact bind_map _ _ _
    · rw [same]
      exact map_id_of _
  | readData owner dataId schema =>
    refine ⟨_, providerOf topo owner >>= fun provider =>
      dataRead provider dataId { includeSchema := schema }, .read, id, ?_, map_id_of _,
      record_settles readResponse_settles⟩
    cases owner <;> exact bind_map _ _ _
  | dataCategories owner =>
    refine ⟨_, providerOf topo owner >>= Handlers.dataCategories, .dataCategories, Response.data,
      ?_, bind_map _ _ _, payload_settles (items_settles dataCategoryInformation_settles)
        (by simp [items])⟩
    cases owner <;> exact bind_map _ _ _
  | dataGroups owner =>
    refine ⟨_, providerOf topo owner >>= fun provider => Handlers.dataGroups provider {},
      .dataGroups, Response.data, ?_, bind_map _ _ _,
      payload_settles (items_settles group_settles) (by simp [items])⟩
    cases owner <;> exact bind_map _ _ _

end Answers

end OpenSovd.RemoteCallProofs
