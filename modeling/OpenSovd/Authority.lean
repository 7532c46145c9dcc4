import OpenSovd.Hypermedia
import OpenSovd.UriText
import OpenSovd.VersionSelection

/-! The authority a server advertises. A request names the server it is meant
for in its URI or in its `Host` header, but the advertised base is put together
from the header alone, so a request without one is answered with links to
`localhost`. -/
namespace OpenSovd.Authority
open OpenSovd.Http OpenSovd.Provider OpenSovd.Topology OpenSovd.Routes OpenSovd.Responses
open OpenSovd.Handlers OpenSovd.Hypermedia OpenSovd.BasePath OpenSovd.Versions OpenSovd.UriText
open OpenSovd.VersionSelection OpenSovd.Support OpenSovd.Support.Fallible

/-! ### Requests and their targets -/

/-- A server as configured. The scheme was read off a URI. -/
structure Server where
  config : BaseConfig
  isTls : Bool
  schemeChars : ∀ scheme, config.scheme = some scheme →
    ∀ char ∈ scheme.toList, char ∉ [':', '/', '?', '#']

/-- The request as the handlers see it, with what the server advertises. -/
def Server.received (server : Server) (parts : RequestParts) : RequestParts :=
  parts.insertExtension .baseUri (advertised server.config server.isTls)

/-- The authority in the request's URI, which is there over HTTP/2 and in
absolute form, or else the one in its `Host` header. -/
def targetAuthority (parts : RequestParts) : Option String := parts.uri.authority <|> hostHeader parts

/-- What precedes the path, the query and the fragment. -/
def authorityText (text : String) : String :=
  String.ofList (text.toList.takeWhile fun char => char ∉ ['/', '?', '#'])

/-- The authority part of a URI: what is between `://` behind the scheme and the
path, the query or the fragment. -/
def authorityOf (uri : String) : Option String :=
  match uri.toList.dropWhile fun char => char ∉ [':', '/', '?', '#'] with
  | ':' :: '/' :: '/' :: rest => some (authorityText (String.ofList rest))
  | _ => none

/-- A URI parser, as far as the authority goes. -/
structure AuthorityParser where
  parse : String → Option Uri
  reads : ∀ text authority uri, authorityOf text = some authority → parse text = some uri →
    uri.authority = some authority

/-- The version info and every answer with links carry the authority, and a
client that selects a version from them talks to it. -/
structure Advertises (server : Server) (parts : RequestParts) (authority : String) : Prop where
  baseUri : ∀ {V : Type} schema (vendorInfo : Option V) query,
    ∀ info ∈ (versionInfo schema vendorInfo (server.received parts) query).data.sovdInfo,
      authorityOf info.baseUri = some authority
  hrefs : ∀ {P : Type} [DataProvider P] schemas (topo : TopologyState P) query route payload,
    get schemas (versionedUriOf (server.received parts)) topo query route = .ok payload →
    ∀ uri ∈ payload.uris, authorityOf uri = some authority
  selected : ∀ {H V : Type} fetch (parser : AuthorityParser) decode (pred : SovdInfo V → Bool)
    (inner client : Client H) schema vendorInfo query,
    ((fetched inner (versionInfo schema vendorInfo (server.received parts) query).data.sovdInfo).select
      fetch parser.parse decode pred).2 = .ok client →
    client.baseUri.authority = some authority

/-- What is advertised is the authority the request is meant for. -/
def AdvertisesTarget (server : Server) (parts : RequestParts) : Prop :=
  ∀ target, targetAuthority parts = some target → Advertises server parts target

/-- The request has a `Host` header that names its target, or it has none and is
meant for `localhost`. -/
def HostNamesTarget (parts : RequestParts) : Prop :=
  ∀ target, targetAuthority parts = some target →
    match hostHeader parts with
    | some host => authorityText host = target
    | none => target = "localhost"

/-! ### The authority of what is put together -/

theorem takeWhile_rooted (host : List Char) {rest : List Char} (rooted : rest.head? = some '/') :
    (host ++ rest).takeWhile (fun char => char ∉ ['/', '?', '#']) =
      host.takeWhile fun char => char ∉ ['/', '?', '#'] := by
  have stop : rest.takeWhile (fun char => char ∉ ['/', '?', '#']) = [] := by
    cases rest with
    | nil => cases rooted
    | cons first tail =>
      cases rooted
      rfl
  rw [List.takeWhile_append]
  split
  · rename_i whole
    rw [stop, List.append_nil, ((List.takeWhile_prefix _).eq_of_length whole)]
  · rfl

theorem authorityOf_printed {scheme : String} (host : String) {rest : String}
    (schemeChars : ∀ char ∈ scheme.toList, char ∉ [':', '/', '?', '#'])
    (rooted : rest.toList.head? = some '/') :
    authorityOf (scheme ++ "://" ++ host ++ rest) = some (authorityText host) := by
  have shape : (scheme ++ "://" ++ host ++ rest).toList =
      scheme.toList ++ ':' :: '/' :: '/' :: (host.toList ++ rest.toList) := by simp
  have front : (scheme ++ "://" ++ host ++ rest).toList.dropWhile
      (fun char => char ∉ [':', '/', '?', '#']) = ':' :: '/' :: '/' :: (host.toList ++ rest.toList) := by
    rw [shape, List.dropWhile_append_of_pos fun char member => by simpa using schemeChars char member]
    simp
  simp only [authorityOf, front, authorityText, String.toList_ofList, takeWhile_rooted _ rooted]

theorem advertised_scheme (server : Server) :
    ∀ char ∈ (advertised server.config server.isTls).scheme.toList, char ∉ [':', '/', '?', '#'] := by
  obtain ⟨⟨path, scheme⟩, isTls, schemeChars⟩ := server
  cases isTls with
  | true => simp [advertised]
  | false =>
    cases scheme with
    | none => simp [advertised]
    | some scheme => exact schemeChars scheme rfl

/-- A mount path starts with a slash or is empty. -/
theorem advertised_path (config : BaseConfig) (isTls : Bool) (rest : String) :
    ((advertised config isTls).path ++ ("/" ++ rest)).toList.head? = some '/' := by
  have mounted : (normalizeBase config.path).getD "" = "" ∨
      ((normalizeBase config.path).getD "").toList.head? = some '/' := by
    unfold normalizeBase
    split
    · exact Or.inl rfl
    · exact Or.inl rfl
    · rename_i chars
      exact Or.inr (by rw [Option.getD_some, chars]; rfl)
    · exact Or.inr (by simp)
  rw [String.toList_append, advertised]
  rcases mounted with root | rooted
  · simp [root]
  · simp [List.head?_append, rooted]

/-- Whatever follows the versioned URI, its authority is read off the `Host`
header. -/
theorem authorityOf_versioned (server : Server) (parts : RequestParts) (rest : String) :
    authorityOf (versionedUriOf (server.received parts) ++ rest) =
      some (authorityText ((hostHeader parts).getD "localhost")) := by
  have shape : versionedUriOf (server.received parts) ++ rest =
      (advertised server.config server.isTls).scheme ++ "://" ++ (hostHeader parts).getD "localhost" ++
        ((advertised server.config server.isTls).path ++ ("/" ++ (apiVersion ++ rest))) := by
    simp only [versionedUriOf, baseUriOf, Server.received, Parts.insertExtension,
      Extensions.get_insert, hostHeader, Parts.header, String.append_assoc]
  rw [shape]
  exact authorityOf_printed _ (advertised_scheme server) (advertised_path ..)

/-! ### What the links start with -/

section Links
variable {P : Type} [DataProvider P] {schemas : Schemas} {base : String} {topo : TopologyState P}

def Below (base uri : String) : Prop := ∃ rest, uri = base ++ rest

theorem Below.step (base rest : String) : Below base (base ++ rest) := ⟨rest, rfl⟩

theorem Below.append {uri : String} (below : Below base uri) (rest : String) :
    Below base (uri ++ rest) := by
  obtain ⟨path, rfl⟩ := below
  exact ⟨path ++ rest, String.append_assoc ..⟩

/-- The link to an entity. -/
theorem below_entity (base collection id : String) : Below base (base ++ collection ++ id) :=
  (Below.step base collection).append id

theorem below_references {E : Type} {reference : E → EntityReference}
    (each : ∀ e, Below base (reference e).href) (entities : List E) :
    ∀ item ∈ entities.map reference, Below base item.href := by
  intro item member
  obtain ⟨e, _, rfl⟩ := List.mem_map.mp member
  exact each e

omit [DataProvider P] in
theorem below_componentItems (query : EntitiesQuery) (components : List (Entity.Component P)) :
    ∀ item ∈ componentItems base query components, Below base item.href :=
  below_references (fun _ => below_entity ..) _

omit [DataProvider P] in
theorem below_appItems (query : EntitiesQuery) (apps : List (Entity.App P)) :
    ∀ item ∈ appItems base query apps, Below base item.href :=
  below_references (fun _ => below_entity ..) _

theorem below_areaItems (query : EntitiesQuery) (areas : List Entity.Area) :
    ∀ item ∈ areaItems base query areas, Below base item.href :=
  below_references (fun _ => below_entity ..) _

theorem below_belongsToItems (query : EntitiesQuery) (area : Option Entity.Area) :
    ∀ item ∈ belongsToItems base query area, Below base item.href := by
  intro item member
  cases area with
  | none => cases member
  | some area =>
    rw [belongsToItems] at member
    split at member
    · rw [List.mem_singleton.mp member]
      exact below_entity ..
    · cases member

theorem below_entities {response : Response Entities}
    (each : ∀ item ∈ response.data.items, Below base item.href) :
    ∀ uri ∈ (Payload.entities response).uris, Below base uri := by
  intro uri emitted
  obtain ⟨item, member, rfl⟩ := List.mem_map.mp emitted
  exact each item member

/-- Every link of every answer starts with the base. -/
theorem uris_below {query : Query} {route : Route} {payload : Payload}
    (answered : get schemas base topo query route = .ok payload) :
    ∀ uri ∈ payload.uris, Below base uri := by
  intro uri emitted
  cases route with
  | rootCapabilities =>
    cases answered
    rcases uris_rootCapabilities emitted with rfl | rfl | rfl
    · exact Below.step ..
    · exact Below.step ..
    · exact Below.step ..
  | componentList =>
    cases answered
    exact below_entities (below_componentItems query.entities _) uri emitted
  | appList =>
    cases answered
    exact below_entities (below_appItems query.entities _) uri emitted
  | areaList =>
    cases answered
    exact below_entities (below_areaItems query.entities _) uri emitted
  | componentCapabilities id =>
    obtain ⟨response, ran, rfl⟩ := map_eq_ok_iff.mp answered
    obtain ⟨e, _, shapes⟩ := uris_componentCapabilities ran
    rcases shapes uri emitted with rfl | rfl | ⟨_, rfl⟩
    · exact (below_entity ..).append _
    · exact (below_entity ..).append _
    · exact (below_entity ..).append _
  | appCapabilities id =>
    obtain ⟨response, ran, rfl⟩ := map_eq_ok_iff.mp answered
    obtain ⟨e, _, shapes⟩ := uris_appCapabilities ran
    rcases shapes uri emitted with rfl | rfl | ⟨_, rfl⟩
    · exact below_entity ..
    · exact (below_entity ..).append _
    · exact (below_entity ..).append _
  | areaCapabilities id =>
    obtain ⟨response, ran, rfl⟩ := map_eq_ok_iff.mp answered
    obtain ⟨e, _, shape⟩ := uris_areaCapabilities ran
    rw [shape uri emitted]
    exact (below_entity ..).append _
  | componentHosts id =>
    obtain ⟨response, ran, rfl⟩ := map_eq_ok_iff.mp answered
    obtain ⟨_, _, rest⟩ := bind_eq_ok_iff.mp ran
    cases rest
    exact below_entities (below_appItems query.entities _) uri emitted
  | componentBelongsTo id =>
    obtain ⟨response, ran, rfl⟩ := map_eq_ok_iff.mp answered
    obtain ⟨area, _, rest⟩ := bind_eq_ok_iff.mp ran
    cases rest
    exact below_entities (below_belongsToItems query.entities area) uri emitted
  | appIsLocatedOn id =>
    obtain ⟨response, ran, rfl⟩ := map_eq_ok_iff.mp answered
    obtain ⟨host, _, rest⟩ := bind_eq_ok_iff.mp ran
    cases host with
    | none => cases rest
    | some component =>
      cases rest
      refine below_entities (fun item member => ?_) uri emitted
      rw [List.mem_singleton.mp member]
      exact below_entity ..
  | appBelongsTo id =>
    obtain ⟨response, ran, rfl⟩ := map_eq_ok_iff.mp answered
    obtain ⟨area, _, rest⟩ := bind_eq_ok_iff.mp ran
    cases rest
    exact below_entities (below_belongsToItems query.entities area) uri emitted
  | areaContains id =>
    obtain ⟨response, ran, rfl⟩ := map_eq_ok_iff.mp answered
    obtain ⟨_, _, rest⟩ := bind_eq_ok_iff.mp ran
    cases rest
    refine below_entities (fun item member => ?_) uri emitted
    rcases List.mem_append.mp member with component | app
    · exact below_componentItems query.entities _ item component
    · exact below_appItems query.entities _ item app
  | _ =>
    -- the data routes emit no URI
    obtain ⟨provider, _, rest⟩ := bind_eq_ok_iff.mp answered
    obtain ⟨response, _, same⟩ := bind_eq_ok_iff.mp rest
    cases same
    cases emitted

end Links

/-! ### What a client selects -/

section Selecting
variable {H V : Type} {fetch : Client H → Except VersionSelection.Error (VersionInfo Json)}
  {parse : String → Option Uri} {decode : Json → Option V} {pred : SovdInfo V → Bool}

theorem mem_of_mapM_retype {advertised : List (SovdInfo Json)} {listed : List (SovdInfo V)}
    (typed : advertised.mapM (Discovery.retype decode) = .ok listed) :
    ∀ t ∈ listed, ∃ s ∈ advertised, Discovery.retype decode s = .ok t := by
  induction advertised generalizing listed with
  | nil =>
    cases typed
    exact nofun
  | cons s rest ih =>
    rw [List.mapM_cons] at typed
    obtain ⟨first, read, others⟩ := bind_eq_ok_iff.mp typed
    obtain ⟨later, tail, same⟩ := bind_eq_ok_iff.mp others
    cases same
    refine List.forall_mem_cons.mpr ⟨⟨s, .head _, read⟩, fun t member => ?_⟩
    obtain ⟨s', among, read'⟩ := ih tail t member
    exact ⟨s', .tail _ among, read'⟩

/-- A selected client was made of one of the advertised URIs. -/
theorem select_from_advertised {inner client : Client H} {advertised : List (SovdInfo Json)}
    (selected : ((fetched inner advertised).select fetch parse decode pred).2 = .ok client) :
    ∃ s ∈ advertised, parse s.baseUri = some client.baseUri := by
  rw [select_fetched] at selected
  obtain ⟨listed, typed, rest⟩ := bind_eq_ok_iff.mp selected
  split at rest
  · cases rest
  · rename_i t found
    obtain ⟨s, member, read⟩ := mem_of_mapM_retype typed t (List.mem_of_find?_eq_some found)
    split at rest
    · cases rest
    · rename_i baseUri parsed
      cases rest
      exact ⟨s, member, retype_baseUri read ▸ parsed⟩

end Selecting

/-! ### What is advertised -/

theorem advertises_iff (server : Server) (parts : RequestParts) (authority : String) :
    Advertises server parts authority ↔
      authorityText ((hostHeader parts).getD "localhost") = authority := by
  have here : authorityOf (versionedUriOf (server.received parts)) =
      some (authorityText ((hostHeader parts).getD "localhost")) := by
    simpa using authorityOf_versioned server parts ""
  constructor
  · intro law
    have carried := law.baseUri .null (none : Option Unit) {} _ (.head _)
    rw [here] at carried
    exact Option.some.inj carried
  · rintro rfl
    refine ⟨fun schema vendorInfo query info member => ?_, fun schemas topo query route payload
      answered uri emitted => ?_, fun fetch parser decode pred inner client schema vendorInfo query
      selected => ?_⟩
    · rw [List.mem_singleton.mp member]
      exact here
    · obtain ⟨rest, rfl⟩ := uris_below answered uri emitted
      exact authorityOf_versioned server parts rest
    · obtain ⟨s, member, parsed⟩ := select_from_advertised selected
      rw [List.mem_singleton.mp member] at parsed
      exact parser.reads _ _ _ here parsed

/-- **The advertised authority is the one the request is meant for** exactly
when its `Host` header names it. -/
theorem advertises_target_iff (server : Server) (parts : RequestParts) :
    AdvertisesTarget server parts ↔ HostNamesTarget parts := by
  refine forall₂_congr fun target _ => ?_
  rw [advertises_iff]
  cases hostHeader parts with
  | none =>
    have plain : authorityText "localhost" = "localhost" := rfl
    rw [Option.getD_none, plain]
    exact eq_comm
  | some host => exact Iff.rfl

theorem dropWhile_scheme {text tail : List Char}
    (stopped : text.dropWhile (fun char => char ∉ [':', '/', '?', '#']) = ':' :: tail) :
    text.dropWhile (· ≠ ':') = ':' :: tail := by
  induction text with
  | nil => cases stopped
  | cons first rest ih =>
    by_cases colon : first = ':'
    · subst colon
      simpa using stopped
    · by_cases kept : first ∉ [':', '/', '?', '#']
      · rw [List.dropWhile_cons_of_pos (by simpa using kept)] at stopped
        rw [List.dropWhile_cons_of_pos (by simpa using colon)]
        exact ih stopped
      · rw [List.dropWhile_cons_of_neg (by simpa using kept)] at stopped
        exact absurd (List.cons.inj stopped).1 colon

def splittingAuthority : AuthorityParser where
  parse := split
  reads text authority uri written parsed := by
    unfold authorityOf at written
    split at written
    · rename_i rest stopped
      cases written
      rw [split, dropWhile_scheme stopped] at parsed
      cases parsed
      rw [authorityText, String.toList_ofList]
    · cases written

def gateway : Server := ⟨⟨"/sovd", none⟩, false, nofun⟩

/-- As it arrives over HTTP/2: the authority is in the URI. -/
def http2Request : RequestParts where
  method := "GET"
  uri := { scheme := some "http", authority := some "vehicle:7690", path := "/sovd/version-info" }

/-- The client that asked `vehicle:7690` is sent to `localhost`. -/
theorem http2_client_sent_to_localhost :
    targetAuthority http2Request = some "vehicle:7690" ∧
      (versionInfo .null (none : Option Json) (gateway.received http2Request) {}).data.sovdInfo.map
        SovdInfo.baseUri = ["http://localhost/sovd/v1"] ∧
      ((fetched (⟨http2Request.uri, none, ()⟩ : Client Unit)
        (versionInfo .null none (gateway.received http2Request) {}).data.sovdInfo).select
          (fun _ => .error .request) splittingAuthority.parse VendorInfo.fromJson
          fun _ => true).2.toOption.bind (·.baseUri.authority) = some "localhost" ∧
      ¬ AdvertisesTarget gateway http2Request := by
  refine ⟨rfl, rfl, rfl, fun law => ?_⟩
  have carried := (advertises_iff ..).mp (law "vehicle:7690" rfl)
  exact absurd carried (by decide)

end OpenSovd.Authority
