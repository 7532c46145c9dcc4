import OpenSovd.Routes

/-! Addressing seen from the client, the server's links and the router. The
client escapes everything that is not alphanumeric, the server only what a path
segment must not contain; the router reads either back, so a path stands for
one entity and one only. -/
namespace OpenSovd.Addressing
open OpenSovd.Support.PercentEncoding OpenSovd.Entity OpenSovd.Routes

/-! ### The client's requests -/

namespace Client

/-- `encode`: percent-encode a path segment. -/
def encode (segment : String) : String := utf8PercentEncode .nonAlphanumeric segment

/-- A component reference; its id is already encoded. -/
structure Component where
  id : String

structure App where
  id : String

structure Area where
  id : String

def component (id : String) : Component := ⟨encode id⟩

def app (id : String) : App := ⟨encode id⟩

def area (id : String) : Area := ⟨encode id⟩

namespace Component
variable (self : Component)

def listData : String := "/components/" ++ self.id ++ "/data"

def data (dataId : String) : String := "/components/" ++ self.id ++ "/data/" ++ encode dataId

def dataCategories : String := "/components/" ++ self.id ++ "/data-categories"

def dataGroups : String := "/components/" ++ self.id ++ "/data-groups"

def hosts : String := "/components/" ++ self.id ++ "/hosts"

def belongsTo : String := "/components/" ++ self.id ++ "/belongs-to"

end Component

namespace App
variable (self : App)

def listData : String := "/apps/" ++ self.id ++ "/data"

def data (dataId : String) : String := "/apps/" ++ self.id ++ "/data/" ++ encode dataId

def dataCategories : String := "/apps/" ++ self.id ++ "/data-categories"

def dataGroups : String := "/apps/" ++ self.id ++ "/data-groups"

def isLocatedOn : String := "/apps/" ++ self.id ++ "/is-located-on"

def belongsTo : String := "/apps/" ++ self.id ++ "/belongs-to"

end App

def Area.contains (self : Area) : String := "/areas/" ++ self.id ++ "/contains"

/-- Every request path the client builds from an id and a data id, with the
route it is meant for. -/
def requests (id dataId : String) : List (String × Route) :=
  [((component id).listData, .componentDataList id),
    ((component id).data dataId, .componentData id dataId),
    ((component id).dataCategories, .componentDataCategories id),
    ((component id).dataGroups, .componentDataGroups id),
    ((component id).hosts, .componentHosts id),
    ((component id).belongsTo, .componentBelongsTo id),
    ((app id).listData, .appDataList id),
    ((app id).data dataId, .appData id dataId),
    ((app id).dataCategories, .appDataCategories id),
    ((app id).dataGroups, .appDataGroups id),
    ((app id).isLocatedOn, .appIsLocatedOn id),
    ((app id).belongsTo, .appBelongsTo id),
    ((area id).contains, .areaContains id)]

end Client

/-! ### The encoded segments -/

def clientEncoder : SegmentEncoder :=
  .ofSet .nonAlphanumeric (by decide) ⟨by decide, by decide, by decide⟩

/-- Neither `?` nor `#` gets into a segment. -/
theorem query_not_mem_segment {char : Char} (cuts : char = '?' ∨ char = '#') (text : String) :
    char ∉ (Client.encode text).toList := by
  rcases cuts with rfl | rfl
  · exact separator_not_mem ⟨by decide, by decide, by decide⟩ text
  · exact separator_not_mem ⟨by decide, by decide, by decide⟩ text

theorem query_not_mem_segments {char : Char} (cuts : char = '?' ∨ char = '#') (route : Route) :
    ∀ segment ∈ route.segmentsWith Client.encode, char ∉ segment.toList := by
  have plain := query_not_mem_segment cuts
  rcases cuts with rfl | rfl <;> cases route <;> simp [Route.segmentsWith, plain]

/-- So a path ends where it was meant to end. -/
theorem query_not_mem_path {char : Char} (cuts : char = '?' ∨ char = '#') (route : Route) :
    char ∉ (pathOf (route.segmentsWith Client.encode)).toList := by
  intro member
  rcases mem_pathOf member with rfl | ⟨segment, among, inside⟩
  · exact absurd cuts (by decide)
  · exact query_not_mem_segments cuts route segment among inside

/-- The path of a collection below an entity, and of an item in it. -/
theorem pathOf_collection (kind id name : String) :
    pathOf [kind, id, name] = ("/" ++ kind ++ "/") ++ id ++ ("/" ++ name) := by
  apply String.toList_inj.mp
  simp [pathOf]

theorem pathOf_item (kind id name item : String) :
    pathOf [kind, id, name, item] =
      ("/" ++ kind ++ "/") ++ id ++ ("/" ++ name ++ "/") ++ item := by
  apply String.toList_inj.mp
  simp [pathOf]

/-- Every request path is the one its route is addressed by. -/
theorem requests_path {id dataId : String} {request : String × Route}
    (member : request ∈ Client.requests id dataId) :
    request.1 = pathOf (request.2.segmentsWith clientEncoder.encode) := by
  have encode : clientEncoder.encode = Client.encode := rfl
  rw [encode]
  simp only [Client.requests, List.mem_cons, List.not_mem_nil, or_false] at member
  rcases member with rfl | rfl | rfl | rfl | rfl | rfl | rfl | rfl | rfl | rfl | rfl | rfl | rfl <;>
    simp only [Route.segmentsWith, pathOf_collection, pathOf_item, String.reduceAppend] <;>
    rfl

/-! ### The server's links -/

/-- The link to an entity. -/
def entityHref (base : String) (entityRef : EntityRef) : String :=
  match entityRef.kind with
  | .component => componentHref base entityRef.id
  | .app => appHref base entityRef.id
  | .area => areaHref base entityRef.id

/-- The entity's own route. -/
def entityRoute (entityRef : EntityRef) : Route :=
  match entityRef.kind with
  | .component => .componentCapabilities entityRef.id
  | .app => .appCapabilities entityRef.id
  | .area => .areaCapabilities entityRef.id

theorem entityHref_path (base : String) (entityRef : EntityRef) :
    entityHref base entityRef =
      base ++ pathOf ((entityRoute entityRef).segmentsWith serverEncoder.encode) := by
  obtain ⟨kind, id⟩ := entityRef
  apply String.toList_inj.mp
  cases kind <;>
    simp [entityHref, entityRoute, componentHref, appHref, areaHref, pathOf, Route.segmentsWith,
      serverEncoder, SegmentEncoder.ofSet, encodePathSegment]

theorem entityRoute_injective : Function.Injective entityRoute := by
  rintro ⟨kind, id⟩ ⟨kind', id'⟩ same
  cases kind <;> cases kind' <;> cases same <;> rfl

theorem resolve_entityHref (base : String) (entityRef : EntityRef) (named : entityRef.id ≠ "") :
    resolve base (entityHref base entityRef) = some (entityRoute entityRef) := by
  rw [entityHref_path, resolve_append, routeOf_path]
  obtain ⟨kind, id⟩ := entityRef
  cases kind <;> simpa [entityRoute, Route.ending] using named

/-- A request reaches the route it is meant for. -/
theorem request_reaches_route {id dataId : String} (item : dataId ≠ "")
    {request : String × Route} (member : request ∈ Client.requests id dataId) :
    routeOf request.1 = some request.2 := by
  rw [requests_path member]
  refine routeOf_path clientEncoder ?_
  simp only [Client.requests, List.mem_cons, List.not_mem_nil, or_false] at member
  rcases member with rfl | rfl | rfl | rfl | rfl | rfl | rfl | rfl | rfl | rfl | rfl | rfl | rfl <;>
    simp [Route.ending, item]

/-- **Addressing round-trips** between the client, the server's links and the
router, for every id that is not empty; hence no two requests and no two
entities share a path. -/
theorem addressing_round_trips (id dataId : String) (named : id ≠ "") (item : dataId ≠ "") :
    (∀ request ∈ Client.requests id dataId, routeOf request.1 = some request.2 ∧
        '?' ∉ request.1.toList ∧ '#' ∉ request.1.toList) ∧
      (∀ base kind, resolve base (entityHref base ⟨kind, id⟩) = some (entityRoute ⟨kind, id⟩)) ∧
      (∀ id' dataId', id' ≠ "" → dataId' ≠ "" → ∀ request ∈ Client.requests id dataId,
        ∀ request' ∈ Client.requests id' dataId', request.1 = request'.1 → request.2 = request'.2) ∧
      (∀ base kind (other : EntityRef), other.id ≠ "" →
        entityHref base ⟨kind, id⟩ = entityHref base other → ⟨kind, id⟩ = other) := by
  refine ⟨fun request member => ?_, fun base kind => resolve_entityHref base ⟨kind, id⟩ named, ?_, ?_⟩
  · refine ⟨request_reaches_route item member, ?_, ?_⟩ <;> rw [requests_path member]
    · exact query_not_mem_path (.inl rfl) request.2
    · exact query_not_mem_path (.inr rfl) request.2
  · intro id' dataId' named' item' request member request' member' same
    have left := request_reaches_route item member
    rw [same, request_reaches_route item' member'] at left
    exact (Option.some.inj left).symm
  · intro base kind other named' same
    have left := resolve_entityHref base ⟨kind, id⟩ named
    rw [same, resolve_entityHref base other named'] at left
    exact (entityRoute_injective (Option.some.inj left)).symm

theorem slashed_id_round_trips :
    routeOf ((Client.component "a/b%c").data "ü d?") = some (.componentData "a/b%c" "ü d?") :=
  ((addressing_round_trips "a/b%c" "ü d?" (by decide) (by decide)).1 _ (.tail _ (.head _))).1

end OpenSovd.Addressing
