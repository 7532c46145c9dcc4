import OpenSovd.Entity
import OpenSovd.Support.PercentEncoding

/-! The routes below the version prefix, and the paths under which the server's
links and the client's requests address them. A path is matched segment by
segment as it was sent, and a parameter is percent-decoded before a handler sees
it. A parameter at the end of a path must not be empty; one before a fixed
segment may be. -/
namespace OpenSovd.Routes
open OpenSovd.Support.PercentEncoding OpenSovd.Entity

/-- A route with its decoded parameters, named after its handler. -/
inductive Route where
  | rootCapabilities
  | componentList
  | componentCapabilities (componentId : String)
  | componentHosts (componentId : String)
  | componentBelongsTo (componentId : String)
  | appList
  | appCapabilities (appId : String)
  | appIsLocatedOn (appId : String)
  | appBelongsTo (appId : String)
  | areaList
  | areaCapabilities (areaId : String)
  | areaContains (areaId : String)
  | componentDataCategories (componentId : String)
  | componentDataGroups (componentId : String)
  | componentDataList (componentId : String)
  | componentData (componentId dataId : String)
  | appDataCategories (appId : String)
  | appDataGroups (appId : String)
  | appDataList (appId : String)
  | appData (appId dataId : String)
  deriving DecidableEq, Repr

/-- `{name}` before a fixed segment matches whatever stands there, also nothing;
`Path` decodes it. -/
def param (raw : String) : Option String := percentDecode raw

/-- `{name}` at the end of a path does not match an empty segment. -/
def lastParam (raw : String) : Option String :=
  if raw = "" then none else param raw

/-- The routers of `entities` and `data`, merged. `none` where no handler runs:
the path matches nothing, or a parameter does not decode. -/
def matchRoute : List String → Option Route
  | [""] => some .rootCapabilities
  | ["", "components"] => some .componentList
  | ["", "components", id] => (lastParam id).map .componentCapabilities
  | ["", "components", id, "hosts"] => (param id).map .componentHosts
  | ["", "components", id, "belongs-to"] => (param id).map .componentBelongsTo
  | ["", "apps"] => some .appList
  | ["", "apps", id] => (lastParam id).map .appCapabilities
  | ["", "apps", id, "is-located-on"] => (param id).map .appIsLocatedOn
  | ["", "apps", id, "belongs-to"] => (param id).map .appBelongsTo
  | ["", "areas"] => some .areaList
  | ["", "areas", id] => (lastParam id).map .areaCapabilities
  | ["", "areas", id, "contains"] => (param id).map .areaContains
  | ["", "components", id, "data-categories"] => (param id).map .componentDataCategories
  | ["", "components", id, "data-groups"] => (param id).map .componentDataGroups
  | ["", "components", id, "data"] => (param id).map .componentDataList
  | ["", "components", id, "data", dataId] => do
    return .componentData (← param id) (← lastParam dataId)
  | ["", "apps", id, "data-categories"] => (param id).map .appDataCategories
  | ["", "apps", id, "data-groups"] => (param id).map .appDataGroups
  | ["", "apps", id, "data"] => (param id).map .appDataList
  | ["", "apps", id, "data", dataId] => do
    return .appData (← param id) (← lastParam dataId)
  | _ => none

/-- The route a path below the version prefix reaches. -/
def routeOf (path : String) : Option Route := matchRoute (segments path)

namespace Route

/-- The decoded parameters. -/
def params : Route → List String
  | .rootCapabilities | .componentList | .appList | .areaList => []
  | .componentCapabilities id | .componentHosts id | .componentBelongsTo id => [id]
  | .appCapabilities id | .appIsLocatedOn id | .appBelongsTo id => [id]
  | .areaCapabilities id | .areaContains id => [id]
  | .componentDataCategories id | .componentDataGroups id | .componentDataList id => [id]
  | .appDataCategories id | .appDataGroups id | .appDataList id => [id]
  | .componentData id dataId | .appData id dataId => [id, dataId]

/-- The parameter that ends the route's path, if one does. -/
def ending : Route → Option String
  | .componentCapabilities id | .appCapabilities id | .areaCapabilities id => some id
  | .componentData _ dataId | .appData _ dataId => some dataId
  | _ => none

/-- The segments that address the route, with its parameters encoded. -/
def segmentsWith (encode : String → String) : Route → List String
  | .rootCapabilities => []
  | .componentList => ["components"]
  | .componentCapabilities id => ["components", encode id]
  | .componentHosts id => ["components", encode id, "hosts"]
  | .componentBelongsTo id => ["components", encode id, "belongs-to"]
  | .appList => ["apps"]
  | .appCapabilities id => ["apps", encode id]
  | .appIsLocatedOn id => ["apps", encode id, "is-located-on"]
  | .appBelongsTo id => ["apps", encode id, "belongs-to"]
  | .areaList => ["areas"]
  | .areaCapabilities id => ["areas", encode id]
  | .areaContains id => ["areas", encode id, "contains"]
  | .componentDataCategories id => ["components", encode id, "data-categories"]
  | .componentDataGroups id => ["components", encode id, "data-groups"]
  | .componentDataList id => ["components", encode id, "data"]
  | .componentData id dataId => ["components", encode id, "data", encode dataId]
  | .appDataCategories id => ["apps", encode id, "data-categories"]
  | .appDataGroups id => ["apps", encode id, "data-groups"]
  | .appDataList id => ["apps", encode id, "data"]
  | .appData id dataId => ["apps", encode id, "data", encode dataId]

end Route

/-- With ids that are not empty no path ends in an empty parameter. -/
theorem Route.ending_of_named {route : Route} (named : ∀ id ∈ route.params, id ≠ "") :
    route.ending ≠ some "" := by
  cases route <;> simp_all [Route.ending, Route.params]

/-- The router reads an encoded parameter back. -/
theorem param_encode (encoder : SegmentEncoder) (id : String) :
    param (encoder.encode id) = some id := encoder.reads id

theorem lastParam_encode (encoder : SegmentEncoder) {id : String} (named : id ≠ "") :
    lastParam (encoder.encode id) = some id := by
  rw [lastParam, if_neg (encoder.nonempty named), param_encode]

theorem slash_not_mem_segments (encoder : SegmentEncoder) (route : Route) :
    ∀ segment ∈ route.segmentsWith encoder.encode, '/' ∉ segment.toList := by
  cases route <;> simp [Route.segmentsWith, encoder.whole]

/-- The router reads the segments back that a route was encoded to. -/
theorem matchRoute_segments (encoder : SegmentEncoder) {route : Route}
    (ending : route.ending ≠ some "") :
    matchRoute ("" :: route.segmentsWith encoder.encode) = some route := by
  have last {id : String} (ends : route.ending = some id) : lastParam (encoder.encode id) = some id :=
    lastParam_encode encoder fun empty => ending (empty ▸ ends)
  cases route with
  | rootCapabilities | componentList | appList | areaList => rfl
  | componentCapabilities id | appCapabilities id | areaCapabilities id =>
    exact congrArg (Option.map _) (last rfl)
  | componentData id dataId =>
    change (do return Route.componentData (← param _) (← lastParam _)) = _
    rw [param_encode encoder id, last rfl]
    rfl
  | appData id dataId =>
    change (do return Route.appData (← param _) (← lastParam _)) = _
    rw [param_encode encoder id, last rfl]
    rfl
  | _ id => exact congrArg (Option.map _) (param_encode encoder id)

/-- **A path leads to the route it was built for**, with the parameters it was
built from. -/
theorem routeOf_path (encoder : SegmentEncoder) {route : Route} (ending : route.ending ≠ some "") :
    routeOf (pathOf (route.segmentsWith encoder.encode)) = some route := by
  rw [routeOf, segments_pathOf (slash_not_mem_segments encoder route)]
  exact matchRoute_segments encoder ending

example : routeOf "/components//hosts" = some (.componentHosts "") := by decide

example : routeOf "/components/" = none := by decide

/-- The parameter at the end of a path is not empty. -/
theorem lastParam_ne_empty {raw id : String} (read : lastParam raw = some id) : id ≠ "" := by
  unfold lastParam at read
  split at read
  · cases read
  · rename_i nonempty
    exact ne_empty_of_percentDecode nonempty read

/-- A matched route does not end in an empty parameter, and has as many segments
as any path that is built for it. -/
theorem matchRoute_shape {segs : List String} {route : Route} (matched : matchRoute segs = some route)
    (encode : String → String) :
    route.ending ≠ some "" ∧ segs.length = (route.segmentsWith encode).length + 1 := by
  unfold matchRoute at matched
  split at matched
  all_goals first
    | contradiction
    | cases matched
      exact ⟨by simp [Route.ending], rfl⟩
    | obtain ⟨id, read, rfl⟩ := Option.map_eq_some_iff.mp matched
      have nonempty := lastParam_ne_empty read
      exact ⟨by simpa [Route.ending] using nonempty, rfl⟩
    | obtain ⟨id, read, rfl⟩ := Option.map_eq_some_iff.mp matched
      exact ⟨by simp [Route.ending], rfl⟩
    | obtain ⟨id, read, rest⟩ := Option.bind_eq_some_iff.mp matched
      obtain ⟨dataId, item, same⟩ := Option.bind_eq_some_iff.mp rest
      cases same
      exact ⟨by simpa [Route.ending] using lastParam_ne_empty item, rfl⟩

/-! ### The server's links -/

/-- `PATH_SEGMENT_ENCODE_SET`. -/
def pathSegmentEncodeSet : AsciiSet :=
  [' ', '"', '#', '<', '>', '?', Char.ofNat 0x60, Char.ofNat 0x7b, Char.ofNat 0x7d, '/', '%', '[',
    ']', '@', ':'].foldl AsciiSet.add .controls

def encodePathSegment (id : String) : String := utf8PercentEncode pathSegmentEncodeSet id

def serverEncoder : SegmentEncoder :=
  .ofSet pathSegmentEncodeSet (by decide) ⟨by decide, by decide, by decide⟩

def componentHref (base id : String) : String := base ++ "/components/" ++ encodePathSegment id

def appHref (base id : String) : String := base ++ "/apps/" ++ encodePathSegment id

def areaHref (base id : String) : String := base ++ "/areas/" ++ encodePathSegment id

/-- The route of a link: remove the base, then match the path. -/
def resolve (base uri : String) : Option Route :=
  (uri.toList.dropPrefix? base.toList).bind fun path => routeOf (String.ofList path)

theorem resolve_append (base path : String) : resolve base (base ++ path) = routeOf path := by
  rw [resolve, String.toList_append, List.dropPrefix?_append_of_beq _ BEq.rfl]
  simp

end OpenSovd.Routes
