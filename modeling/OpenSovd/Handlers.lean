import OpenSovd.Responses
import OpenSovd.Routes
import OpenSovd.Support.Gates

/-! The handlers of the entity routes and the reading handlers of the data
routes, over one view of the topology. `base` is the versioned URI the request
arrived under; the schemas are generated from the model types. -/
namespace OpenSovd.Handlers
open OpenSovd.Support OpenSovd.Provider OpenSovd.Entity OpenSovd.Topology OpenSovd.Routes
open OpenSovd.Responses

/-- The generated JSON schemas. -/
structure Schemas where
  entities : Json
  entityCapabilities : Json
  dataList : Json

structure EntitiesQuery where
  includeSchema : Bool := false
  tags : List String := []

structure EntityCapabilitiesQuery where
  includeSchema : Bool := false

structure DataQuery where
  groups : Option (List String) := none
  categories : Option (List String) := none
  tags : Option (List String) := none
  includeSchema : Bool := false

structure DataGroupsQuery where
  category : Option DataCategory := none

structure ReadDataQuery where
  includeSchema : Bool := false

variable {P : Type} (schemas : Schemas) (base : String) (topo : TopologyState P)

/-- `query.include_schema.then(schema)`. -/
def schemaIf (includeSchema : Bool) (schema : Json) : Option Json :=
  if includeSchema then some schema else none

/-- `(!list.is_empty()).then_some(list)`. -/
def unlessEmpty (list : List String) : Option (List String) :=
  if list.isEmpty then none else some list

/-- `map_err(|_| Error::EntityNotFound(id))`. -/
def orEntityNotFound {ε α : Type} (id : String) : Except ε α → Except Error α
  | .ok found => .ok found
  | .error _ => .error (.entityNotFound id)

theorem orEntityNotFound_eq_ok_iff {ε α : Type} {id : String} {lookup : Except ε α} {found : α} :
    orEntityNotFound id lookup = .ok found ↔ lookup = .ok found := by
  cases lookup <;> simp [orEntityNotFound]

def matchesTags (query : EntitiesQuery) (tags : List String) : Bool :=
  query.tags.isEmpty || query.tags.any fun tag => tags.contains tag

/-! ### References and listings -/

def componentReference (e : Component P) : EntityReference where
  id := e.id
  name := e.name
  translationId := e.translationId
  href := componentHref base e.id
  tags := unlessEmpty e.tags

def appReference (e : App P) : EntityReference where
  id := e.id
  name := e.name
  translationId := e.translationId
  href := appHref base e.id
  tags := unlessEmpty e.tags

def areaReference (e : Area) : EntityReference where
  id := e.id
  name := e.name
  translationId := e.translationId
  href := areaHref base e.id
  tags := unlessEmpty e.tags

def componentItems (query : EntitiesQuery) (components : List (Component P)) :
    List EntityReference :=
  (components.filter fun e => matchesTags query e.tags).map (componentReference base)

def appItems (query : EntitiesQuery) (apps : List (App P)) : List EntityReference :=
  (apps.filter fun e => matchesTags query e.tags).map (appReference base)

def areaItems (query : EntitiesQuery) (areas : List Area) : List EntityReference :=
  (areas.filter fun e => matchesTags query e.tags).map (areaReference base)

def entitiesResponse (query : EntitiesQuery) (items : List EntityReference) : Response Entities :=
  ⟨⟨items⟩, schemaIf query.includeSchema schemas.entities⟩

/-! ### Entity handlers -/

def rootCapabilities (query : EntityCapabilitiesQuery) : Response EntityCapabilities where
  data := {
    id := ""
    name := ""
    components := if topo.listComponents.length > 0 then some (base ++ "/components") else none
    apps := if topo.listApps.length > 0 then some (base ++ "/apps") else none
    areas := if topo.listAreas.length > 0 then some (base ++ "/areas") else none }
  schema := schemaIf query.includeSchema schemas.entityCapabilities

def componentList (query : EntitiesQuery) : Response Entities :=
  entitiesResponse schemas query (componentItems base query topo.listComponents)

def componentCapabilities (componentId : String) (query : EntityCapabilitiesQuery) :
    Except Error (Response EntityCapabilities) := do
  let entity ← orEntityNotFound componentId (topo.getComponent componentId)
  let variant := if entity.metadata.isEmpty then none else some entity.metadata
  let self := base ++ "/components/" ++ encodePathSegment componentId
  return {
    data := {
      id := componentId
      name := entity.name
      translationId := entity.translationId
      variant := variant
      hosts := some (self ++ "/hosts")
      belongsTo := entity.areaId.map fun _ => self ++ "/belongs-to"
      data := entity.dataProvider.map fun _ => self ++ "/data" }
    schema := schemaIf query.includeSchema schemas.entityCapabilities }

def componentHosts (componentId : String) (query : EntitiesQuery) :
    Except Error (Response Entities) := do
  let _ ← orEntityNotFound componentId (topo.getComponent componentId)
  return entitiesResponse schemas query (appItems base query (topo.appsOfComponent componentId))

/-- The tag filter of the belongs-to handlers looks at the area's tags twice. -/
def areaMatchesTags (query : EntitiesQuery) (tags : List String) : Bool :=
  query.tags.isEmpty || (!tags.isEmpty && query.tags.any fun tag => tags.contains tag)

/-- The item of an area, if there is one and it passes the filter. -/
def belongsToItems (query : EntitiesQuery) (area : Option Area) : List EntityReference :=
  match area with
  | none => []
  | some area => if areaMatchesTags query area.tags then [areaReference base area] else []

def componentBelongsTo (componentId : String) (query : EntitiesQuery) :
    Except Error (Response Entities) := do
  let area ← orEntityNotFound componentId (topo.areaOfComponent componentId)
  return entitiesResponse schemas query (belongsToItems base query area)

def appList (query : EntitiesQuery) : Response Entities :=
  entitiesResponse schemas query (appItems base query topo.listApps)

/-- The host's link is emitted without looking the host up. -/
def appCapabilities (appId : String) (query : EntityCapabilitiesQuery) :
    Except Error (Response EntityCapabilities) := do
  let entity ← orEntityNotFound appId (topo.getApp appId)
  let variant := if entity.metadata.isEmpty then none else some entity.metadata
  let self := base ++ "/apps/" ++ encodePathSegment appId
  return {
    data := {
      id := appId
      name := entity.name
      translationId := entity.translationId
      variant := variant
      isLocatedOn := entity.componentId.map fun host =>
        base ++ "/components/" ++ encodePathSegment host
      belongsTo := entity.areaId.map fun _ => self ++ "/belongs-to"
      data := entity.dataProvider.map fun _ => self ++ "/data" }
    schema := schemaIf query.includeSchema schemas.entityCapabilities }

/-- The tags of the query are not looked at. -/
def appIsLocatedOn (appId : String) (query : EntitiesQuery) : Except Error (Response Entities) := do
  match ← orEntityNotFound appId (topo.componentOfApp appId) with
  | none => throw (.entityNotFound appId)
  | some component => return entitiesResponse schemas query [componentReference base component]

def appBelongsTo (appId : String) (query : EntitiesQuery) : Except Error (Response Entities) := do
  let area ← orEntityNotFound appId (topo.areaOfApp appId)
  return entitiesResponse schemas query (belongsToItems base query area)

def areaList (query : EntitiesQuery) : Response Entities :=
  entitiesResponse schemas query (areaItems base query topo.listAreas)

def areaCapabilities (areaId : String) (query : EntityCapabilitiesQuery) :
    Except Error (Response EntityCapabilities) := do
  let entity ← orEntityNotFound areaId (topo.getArea areaId)
  let variant := if entity.metadata.isEmpty then none else some entity.metadata
  return {
    data := {
      id := areaId
      name := entity.name
      translationId := entity.translationId
      variant := variant
      contains := some (base ++ "/areas/" ++ encodePathSegment areaId ++ "/contains") }
    schema := schemaIf query.includeSchema schemas.entityCapabilities }

def areaContains (areaId : String) (query : EntitiesQuery) : Except Error (Response Entities) := do
  let _ ← orEntityNotFound areaId (topo.getArea areaId)
  return entitiesResponse schemas query
    (componentItems base query (topo.componentsOfArea areaId) ++
      appItems base query (topo.appsOfArea areaId))

/-! ### Data handlers -/

/-- `?` on a provider's answer. -/
def orDataError {α : Type} : Except DataError α → Except Error α
  | .ok value => .ok value
  | .error error => .error (.data error)

def componentProvider (componentId : String) : Except Error P := do
  let entity ← orEntityNotFound componentId (topo.getComponent componentId)
  match entity.dataProvider with
  | none => throw (.providerNotAvailable "data")
  | some provider => return provider

def appProvider (appId : String) : Except Error P := do
  let entity ← orEntityNotFound appId (topo.getApp appId)
  match entity.dataProvider with
  | none => throw (.providerNotAvailable "data")
  | some provider => return provider

/-- When both are given, the groups win and the categories are ignored. -/
def dataFilter (query : DataQuery) : DataFilter :=
  let groups := query.groups.getD []
  let categories := query.categories.getD []
  { scope :=
      if !groups.isEmpty then some (.groups groups)
      else if !categories.isEmpty then some (.categories categories)
      else none
    tags := query.tags.getD [] }

variable [DataProvider P]

def dataCategories (provider : P) : Except Error (Response DataCategories) := do
  let infos ← orDataError (DataProvider.categories provider)
  return ⟨⟨infos.map fun c => ⟨.ofString c.category, c.translationId⟩⟩, none⟩

def dataGroups (provider : P) (query : DataGroupsQuery) : Except Error (Response DataGroups) := do
  let infos ← orDataError (DataProvider.groups provider (query.category.map DataCategory.asStr))
  return ⟨⟨infos.map fun g => {
    id := g.id
    category := .ofString g.category
    categoryTranslationId := g.categoryTranslationId
    group := g.group
    groupTranslationId := g.groupTranslationId }⟩, none⟩

def dataList (provider : P) (query : DataQuery) : Except Error (Response DataList) := do
  let listed ← orDataError (DataProvider.list provider (dataFilter query))
  return ⟨⟨listed.map fun m => {
    id := m.id
    name := m.name
    category := .ofString m.category
    translationId := m.translationId
    groups := unlessEmpty m.groups
    tags := unlessEmpty m.tags }⟩, schemaIf query.includeSchema schemas.dataList⟩

def dataRead (provider : P) (dataId : String) (query : ReadDataQuery) :
    Except Error ReadResponse := do
  let value ← orDataError (DataProvider.read provider dataId query.includeSchema)
  return { id := dataId, data := value.data, schema := value.schema }

/-! ### Dispatch -/

/-- The query of a request, as each handler would decode it; without a query
string every field has its default. -/
structure Query where
  entities : EntitiesQuery := {}
  capabilities : EntityCapabilitiesQuery := {}
  data : DataQuery := {}
  dataGroups : DataGroupsQuery := {}
  read : ReadDataQuery := {}

/-- The body of a successful answer. -/
inductive Payload where
  | capabilities (response : Response EntityCapabilities)
  | entities (response : Response Entities)
  | dataCategories (response : Response DataCategories)
  | dataGroups (response : Response DataGroups)
  | dataList (response : Response DataList)
  | read (response : ReadResponse)

/-- Every URI in any field of the body. -/
def Payload.uris : Payload → List String
  | .capabilities response => response.data.uris
  | .entities response => response.data.items.map EntityReference.href
  | _ => []

/-- `GET` on a route. -/
def get (query : Query) : Route → Except Error Payload
  | .rootCapabilities => .ok (.capabilities (rootCapabilities schemas base topo query.capabilities))
  | .componentList => .ok (.entities (componentList schemas base topo query.entities))
  | .componentCapabilities id =>
    (componentCapabilities schemas base topo id query.capabilities).map .capabilities
  | .componentHosts id => (componentHosts schemas base topo id query.entities).map .entities
  | .componentBelongsTo id => (componentBelongsTo schemas base topo id query.entities).map .entities
  | .appList => .ok (.entities (appList schemas base topo query.entities))
  | .appCapabilities id => (appCapabilities schemas base topo id query.capabilities).map .capabilities
  | .appIsLocatedOn id => (appIsLocatedOn schemas base topo id query.entities).map .entities
  | .appBelongsTo id => (appBelongsTo schemas base topo id query.entities).map .entities
  | .areaList => .ok (.entities (areaList schemas base topo query.entities))
  | .areaCapabilities id =>
    (areaCapabilities schemas base topo id query.capabilities).map .capabilities
  | .areaContains id => (areaContains schemas base topo id query.entities).map .entities
  | .componentDataCategories id => do
    return .dataCategories (← dataCategories (← componentProvider topo id))
  | .componentDataGroups id => do
    return .dataGroups (← dataGroups (← componentProvider topo id) query.dataGroups)
  | .componentDataList id => do
    return .dataList (← dataList schemas (← componentProvider topo id) query.data)
  | .componentData id dataId => do
    return .read (← dataRead (← componentProvider topo id) dataId query.read)
  | .appDataCategories id => do
    return .dataCategories (← dataCategories (← appProvider topo id))
  | .appDataGroups id => do
    return .dataGroups (← dataGroups (← appProvider topo id) query.dataGroups)
  | .appDataList id => do
    return .dataList (← dataList schemas (← appProvider topo id) query.data)
  | .appData id dataId => do
    return .read (← dataRead (← appProvider topo id) dataId query.read)

end OpenSovd.Handlers
