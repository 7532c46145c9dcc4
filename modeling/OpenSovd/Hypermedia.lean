import OpenSovd.Handlers
import OpenSovd.TopologyRuns

/-! Hypermedia closure: what the entity handlers link to can be fetched. A list
links to entities it took from the registry, and an entity links to its own
sub-resources; only the link from an app to its host names an entity that was
never looked up, so the closure holds exactly when every host is registered. -/
namespace OpenSovd.Hypermedia
open OpenSovd.Support OpenSovd.Support.PercentEncoding OpenSovd.Provider OpenSovd.Entity
open OpenSovd.Topology OpenSovd.TopologyRuns OpenSovd.Routes OpenSovd.Responses OpenSovd.Handlers
open TopologyState Fallible

variable {P : Type} {schemas : Schemas} {base : String} {topo : TopologyState P}

/-- Every registered app is located on a registered component. -/
def HostsRegistered (topo : TopologyState P) : Prop :=
  ∀ id app, topo.getApp id = .ok app → ∀ host, app.componentId = some host →
    ∃ component, topo.getComponent host = .ok component

/-- The call leaves every app with its host: an added app names a registered
host, and a removed component hosts no app. -/
def KeepsHosts (topo : TopologyState P) : TopologyOp P → Prop
  | .addApp app => ∀ host, app.componentId = some host →
      ∃ component, topo.getComponent host = .ok component
  | .removeComponent id => ∀ app ∈ topo.listApps, app.componentId ≠ some id
  | _ => True

/-! ### What an entity links to -/

theorem uris_rootCapabilities {query : EntityCapabilitiesQuery} {uri : String}
    (emitted : uri ∈ (rootCapabilities schemas base topo query).data.uris) :
    uri = base ++ "/components" ∨ uri = base ++ "/apps" ∨ uri = base ++ "/areas" := by
  simp only [rootCapabilities, EntityCapabilities.uris, List.mem_filterMap, exists_eq_right, List.mem_cons,
    List.not_mem_nil, reduceCtorEq, false_or, or_false] at emitted
  rcases emitted with areas | components | apps
  · split at areas
    · exact Or.inr (Or.inr (Option.some.inj areas))
    · cases areas
  · split at components
    · exact Or.inl (Option.some.inj components)
    · cases components
  · split at apps
    · exact Or.inr (Or.inl (Option.some.inj apps))
    · cases apps

theorem uris_componentCapabilities {id : String} {query : EntityCapabilitiesQuery}
    {response : Response EntityCapabilities}
    (answered : componentCapabilities schemas base topo id query = .ok response) :
    ∃ e, topo.components.get id = some e ∧ ∀ uri ∈ response.data.uris,
      uri = base ++ "/components/" ++ encodePathSegment id ++ "/hosts" ∨
      uri = base ++ "/components/" ++ encodePathSegment id ++ "/belongs-to" ∨
      ((∃ provider, e.dataProvider = some provider) ∧
        uri = base ++ "/components/" ++ encodePathSegment id ++ "/data") := by
  obtain ⟨e, found, rest⟩ := bind_eq_ok_iff.mp answered
  have held := getComponent_eq_ok_iff.mp (orEntityNotFound_eq_ok_iff.mp found)
  refine ⟨e, held, fun uri emitted => ?_⟩
  cases rest
  simp only [EntityCapabilities.uris, List.mem_filterMap, exists_eq_right, List.mem_cons,
    List.not_mem_nil, reduceCtorEq, false_or, or_false] at emitted
  rcases emitted with data | belongs | hosts
  · obtain ⟨provider, backed, rfl⟩ := Option.map_eq_some_iff.mp data.symm
    exact Or.inr (Or.inr ⟨⟨provider, backed⟩, rfl⟩)
  · obtain ⟨area, _, rfl⟩ := Option.map_eq_some_iff.mp belongs.symm
    exact Or.inr (Or.inl rfl)
  · exact Or.inl (Option.some.inj hosts)

theorem uris_appCapabilities {id : String} {query : EntityCapabilitiesQuery}
    {response : Response EntityCapabilities}
    (answered : appCapabilities schemas base topo id query = .ok response) :
    ∃ e, topo.apps.get id = some e ∧ ∀ uri ∈ response.data.uris,
      uri = componentHref base e.isLocatedOn ∨
      uri = base ++ "/apps/" ++ encodePathSegment id ++ "/belongs-to" ∨
      ((∃ provider, e.dataProvider = some provider) ∧
        uri = base ++ "/apps/" ++ encodePathSegment id ++ "/data") := by
  obtain ⟨e, found, rest⟩ := bind_eq_ok_iff.mp answered
  have held := getApp_eq_ok_iff.mp (orEntityNotFound_eq_ok_iff.mp found)
  refine ⟨e, held, fun uri emitted => ?_⟩
  cases rest
  simp only [EntityCapabilities.uris, List.mem_filterMap, exists_eq_right, List.mem_cons,
    List.not_mem_nil, reduceCtorEq, false_or, or_false, App.componentId] at emitted
  rcases emitted with data | belongs | host
  · obtain ⟨provider, backed, rfl⟩ := Option.map_eq_some_iff.mp data.symm
    exact Or.inr (Or.inr ⟨⟨provider, backed⟩, rfl⟩)
  · obtain ⟨area, _, rfl⟩ := Option.map_eq_some_iff.mp belongs.symm
    exact Or.inr (Or.inl rfl)
  · exact Or.inl (Option.some.inj host)

theorem uris_areaCapabilities {id : String} {query : EntityCapabilitiesQuery}
    {response : Response EntityCapabilities}
    (answered : areaCapabilities schemas base topo id query = .ok response) :
    ∃ e, topo.areas.get id = some e ∧ ∀ uri ∈ response.data.uris,
      uri = base ++ "/areas/" ++ encodePathSegment id ++ "/contains" := by
  obtain ⟨e, found, rest⟩ := bind_eq_ok_iff.mp answered
  have held := getArea_eq_ok_iff.mp (orEntityNotFound_eq_ok_iff.mp found)
  refine ⟨e, held, fun uri emitted => ?_⟩
  cases rest
  simp only [EntityCapabilities.uris, List.mem_filterMap, exists_eq_right, List.mem_cons,
    List.not_mem_nil, reduceCtorEq, false_or, or_false] at emitted
  exact Option.some.inj emitted

variable [DataProvider P]

/-- The URI leads to a route, and `GET` on that route succeeds. -/
def Followable (schemas : Schemas) (base : String) (topo : TopologyState P) (uri : String) : Prop :=
  ∃ target answer, resolve base uri = some target ∧ get schemas base topo {} target = .ok answer

/-- Every URI in a successful answer can be followed. -/
def Closed (schemas : Schemas) (base : String) (topo : TopologyState P) : Prop :=
  ∀ query route payload, get schemas base topo query route = .ok payload →
    ∀ uri ∈ payload.uris, Followable schemas base topo uri

/-- `list()` of every registered provider succeeds. -/
structure ProvidersList (topo : TopologyState P) : Prop where
  component : ∀ id e provider, topo.getComponent id = .ok e → e.dataProvider = some provider →
    ∃ items, DataProvider.list provider {} = .ok items
  app : ∀ id e provider, topo.getApp id = .ok e → e.dataProvider = some provider →
    ∃ items, DataProvider.list provider {} = .ok items

/-- Entities are registered under their own id, which is not empty, and their
providers list. -/
structure Usable (topo : TopologyState P) : Prop where
  component : ∀ id e, topo.components.get id = some e → e.id = id ∧ id ≠ ""
  app : ∀ id e, topo.apps.get id = some e → e.id = id ∧ id ≠ ""
  area : ∀ id e, topo.areas.get id = some e → e.id = id ∧ id ≠ ""
  lists : ProvidersList topo

/-! ### Following a link -/

/-- A URI that was built for a route with named parameters can be followed when
the route is answered. -/
theorem followable_of_route (target : Route) {uri : String}
    (built : uri = base ++ pathOf (target.segmentsWith encodePathSegment))
    (named : ∀ id ∈ target.params, id ≠ "")
    (answered : ∃ answer, get schemas base topo {} target = .ok answer) :
    Followable schemas base topo uri := by
  obtain ⟨answer, answered⟩ := answered
  refine ⟨target, answer, ?_, answered⟩
  rw [built, resolve_append]
  exact routeOf_path serverEncoder (Route.ending_of_named named)

theorem follow_componentList : Followable schemas base topo (base ++ "/components") := by
  refine followable_of_route .componentList (String.toList_inj.mp ?_) ?_ ⟨_, rfl⟩
  · simp [pathOf, Route.segmentsWith]
  · simp [Route.params]

theorem follow_appList : Followable schemas base topo (base ++ "/apps") := by
  refine followable_of_route .appList (String.toList_inj.mp ?_) ?_ ⟨_, rfl⟩
  · simp [pathOf, Route.segmentsWith]
  · simp [Route.params]

theorem follow_areaList : Followable schemas base topo (base ++ "/areas") := by
  refine followable_of_route .areaList (String.toList_inj.mp ?_) ?_ ⟨_, rfl⟩
  · simp [pathOf, Route.segmentsWith]
  · simp [Route.params]

theorem dataList_ok (schemas : Schemas) {provider : P} {items : List Metadata}
    (listed : DataProvider.list provider {} = .ok items) :
    ∃ answer, dataList schemas provider {} = .ok answer := by
  have unfiltered : DataProvider.list provider (dataFilter {}) = .ok items := listed
  simp only [dataList, unfiltered, orDataError, bind, Except.bind]
  exact ⟨_, rfl⟩

section Component
variable {id : String} {e : Component P} (usable : Usable topo)
  (held : topo.components.get id = some e)
include usable held

theorem follow_component : Followable schemas base topo (componentHref base id) := by
  have found := getComponent_eq_ok_iff.mpr held
  refine followable_of_route (.componentCapabilities id) (String.toList_inj.mp ?_) ?_ ?_
  · simp [componentHref, pathOf, Route.segmentsWith]
  · simpa [Route.params] using (usable.component id e held).2
  · simp only [Handlers.get, componentCapabilities, found, orEntityNotFound]
    exact ⟨_, rfl⟩

theorem follow_componentHosts : Followable schemas base topo
    (base ++ "/components/" ++ encodePathSegment id ++ "/hosts") := by
  have found := getComponent_eq_ok_iff.mpr held
  refine followable_of_route (.componentHosts id) (String.toList_inj.mp ?_) ?_ ?_
  · simp [pathOf, Route.segmentsWith]
  · simpa [Route.params] using (usable.component id e held).2
  · simp only [Handlers.get, componentHosts, found, orEntityNotFound]
    exact ⟨_, rfl⟩

/-- Also when the area is gone: then the list is empty. -/
theorem follow_componentBelongsTo : Followable schemas base topo
    (base ++ "/components/" ++ encodePathSegment id ++ "/belongs-to") := by
  have found : ∃ area, topo.areaOfComponent id = .ok area := by
    simp only [areaOfComponent, held]
    cases e.areaId with
    | none => exact ⟨_, rfl⟩
    | some areaId => exact ⟨_, rfl⟩
  obtain ⟨area, found⟩ := found
  refine followable_of_route (.componentBelongsTo id) (String.toList_inj.mp ?_) ?_ ?_
  · simp [pathOf, Route.segmentsWith]
  · simpa [Route.params] using (usable.component id e held).2
  · simp only [Handlers.get, componentBelongsTo, found, orEntityNotFound]
    exact ⟨_, rfl⟩

theorem follow_componentData {provider : P} (backed : e.dataProvider = some provider) :
    Followable schemas base topo (base ++ "/components/" ++ encodePathSegment id ++ "/data") := by
  have found := getComponent_eq_ok_iff.mpr held
  obtain ⟨items, listed⟩ := usable.lists.component id e provider found backed
  have provided : componentProvider topo id = .ok provider := by
    simp only [componentProvider, found, orEntityNotFound, bind, Except.bind, backed]
    rfl
  refine followable_of_route (.componentDataList id) (String.toList_inj.mp ?_) ?_ ?_
  · simp [pathOf, Route.segmentsWith]
  · simpa [Route.params] using (usable.component id e held).2
  · obtain ⟨answer, answered⟩ := dataList_ok schemas listed
    refine ⟨.dataList answer, ?_⟩
    simp only [Handlers.get, provided, bind, Except.bind, answered]
    rfl

end Component

section App
variable {id : String} {e : App P} (usable : Usable topo) (held : topo.apps.get id = some e)
include usable held

theorem follow_app : Followable schemas base topo (appHref base id) := by
  have found := getApp_eq_ok_iff.mpr held
  refine followable_of_route (.appCapabilities id) (String.toList_inj.mp ?_) ?_ ?_
  · simp [appHref, pathOf, Route.segmentsWith]
  · simpa [Route.params] using (usable.app id e held).2
  · simp only [Handlers.get, appCapabilities, found, orEntityNotFound]
    exact ⟨_, rfl⟩

theorem follow_appBelongsTo : Followable schemas base topo
    (base ++ "/apps/" ++ encodePathSegment id ++ "/belongs-to") := by
  have found : ∃ area, topo.areaOfApp id = .ok area := by
    simp only [areaOfApp, held]
    cases e.areaId with
    | none => exact ⟨_, rfl⟩
    | some areaId => exact ⟨_, rfl⟩
  obtain ⟨area, found⟩ := found
  refine followable_of_route (.appBelongsTo id) (String.toList_inj.mp ?_) ?_ ?_
  · simp [pathOf, Route.segmentsWith]
  · simpa [Route.params] using (usable.app id e held).2
  · simp only [Handlers.get, appBelongsTo, found, orEntityNotFound]
    exact ⟨_, rfl⟩

theorem follow_appData {provider : P} (backed : e.dataProvider = some provider) :
    Followable schemas base topo (base ++ "/apps/" ++ encodePathSegment id ++ "/data") := by
  have found := getApp_eq_ok_iff.mpr held
  obtain ⟨items, listed⟩ := usable.lists.app id e provider found backed
  have provided : appProvider topo id = .ok provider := by
    simp only [appProvider, found, orEntityNotFound, bind, Except.bind, backed]
    rfl
  refine followable_of_route (.appDataList id) (String.toList_inj.mp ?_) ?_ ?_
  · simp [pathOf, Route.segmentsWith]
  · simpa [Route.params] using (usable.app id e held).2
  · obtain ⟨answer, answered⟩ := dataList_ok schemas listed
    refine ⟨.dataList answer, ?_⟩
    simp only [Handlers.get, provided, bind, Except.bind, answered]
    rfl

end App

section Area
variable {id : String} {e : Area} (usable : Usable topo) (held : topo.areas.get id = some e)
include usable held

theorem follow_area : Followable schemas base topo (areaHref base id) := by
  have found := getArea_eq_ok_iff.mpr held
  refine followable_of_route (.areaCapabilities id) (String.toList_inj.mp ?_) ?_ ?_
  · simp [areaHref, pathOf, Route.segmentsWith]
  · simpa [Route.params] using (usable.area id e held).2
  · simp only [Handlers.get, areaCapabilities, found, orEntityNotFound]
    exact ⟨_, rfl⟩

theorem follow_areaContains : Followable schemas base topo
    (base ++ "/areas/" ++ encodePathSegment id ++ "/contains") := by
  have found := getArea_eq_ok_iff.mpr held
  refine followable_of_route (.areaContains id) (String.toList_inj.mp ?_) ?_ ?_
  · simp [pathOf, Route.segmentsWith]
  · simpa [Route.params] using (usable.area id e held).2
  · simp only [Handlers.get, areaContains, found, orEntityNotFound]
    exact ⟨_, rfl⟩

end Area

/-! ### What a list links to -/

theorem follow_componentReference (usable : Usable topo) {id : String} {e : Component P}
    (held : topo.components.get id = some e) :
    Followable schemas base topo (componentReference base e).href := by
  have link : Followable schemas base topo (componentHref base id) := follow_component usable held
  rwa [← (usable.component id e held).1] at link

theorem follow_appReference (usable : Usable topo) {id : String} {e : App P}
    (held : topo.apps.get id = some e) :
    Followable schemas base topo (appReference base e).href := by
  have link : Followable schemas base topo (appHref base id) := follow_app usable held
  rwa [← (usable.app id e held).1] at link

theorem follow_areaReference (usable : Usable topo) {id : String} {e : Area}
    (held : topo.areas.get id = some e) :
    Followable schemas base topo (areaReference base e).href := by
  have link : Followable schemas base topo (areaHref base id) := follow_area usable held
  rwa [← (usable.area id e held).1] at link

theorem follow_componentItems (usable : Usable topo) {components : List (Component P)}
    (registered : ∀ e ∈ components, ∃ id, topo.components.get id = some e) (query : EntitiesQuery) :
    ∀ item ∈ componentItems base query components, Followable schemas base topo item.href := by
  intro item member
  obtain ⟨e, listed, rfl⟩ := List.mem_map.mp member
  obtain ⟨id, held⟩ := registered e (List.mem_filter.mp listed).1
  exact follow_componentReference usable held

theorem follow_appItems (usable : Usable topo) {apps : List (App P)}
    (registered : ∀ e ∈ apps, ∃ id, topo.apps.get id = some e) (query : EntitiesQuery) :
    ∀ item ∈ appItems base query apps, Followable schemas base topo item.href := by
  intro item member
  obtain ⟨e, listed, rfl⟩ := List.mem_map.mp member
  obtain ⟨id, held⟩ := registered e (List.mem_filter.mp listed).1
  exact follow_appReference usable held

theorem follow_areaItems (usable : Usable topo) {areas : List Area}
    (registered : ∀ e ∈ areas, ∃ id, topo.areas.get id = some e) (query : EntitiesQuery) :
    ∀ item ∈ areaItems base query areas, Followable schemas base topo item.href := by
  intro item member
  obtain ⟨e, listed, rfl⟩ := List.mem_map.mp member
  obtain ⟨id, held⟩ := registered e (List.mem_filter.mp listed).1
  exact follow_areaReference usable held

theorem follow_belongsToItems (usable : Usable topo) {area : Option Area}
    (registered : ∀ e, area = some e → ∃ id, topo.areas.get id = some e) (query : EntitiesQuery) :
    ∀ item ∈ belongsToItems base query area, Followable schemas base topo item.href := by
  intro item member
  cases area with
  | none => simp [belongsToItems] at member
  | some e =>
    obtain ⟨id, held⟩ := registered e rfl
    simp only [belongsToItems] at member
    split at member
    · rw [List.mem_singleton.mp member]
      exact follow_areaReference usable held
    · cases member

/-- Only an id that the router can match and that is registered makes the link
to a component work. -/
theorem registered_of_follow_component {id : String}
    (link : Followable schemas base topo (componentHref base id)) :
    ∃ e, topo.getComponent id = .ok e := by
  obtain ⟨target, answer, resolved, answered⟩ := link
  have same : componentHref base id =
      base ++ pathOf ((Route.componentCapabilities id).segmentsWith encodePathSegment) := by
    refine String.toList_inj.mp ?_
    simp [componentHref, pathOf, Route.segmentsWith]
  rw [same, resolve_append] at resolved
  by_cases named : id = ""
  · subst named
    have dead : routeOf (pathOf ((Route.componentCapabilities "").segmentsWith encodePathSegment))
        = none := by decide
    rw [dead] at resolved
    cases resolved
  · have reached : routeOf (pathOf ((Route.componentCapabilities id).segmentsWith encodePathSegment))
        = some (.componentCapabilities id) :=
      routeOf_path serverEncoder (by simpa [Route.ending] using named)
    have here : target = .componentCapabilities id :=
      Option.some.inj (resolved.symm.trans reached)
    subst here
    obtain ⟨response, found, _⟩ := map_eq_ok_iff.mp answered
    obtain ⟨e, held, _⟩ := uris_componentCapabilities found
    exact ⟨e, getComponent_eq_ok_iff.mpr held⟩

/-! ### What the handlers of an entity's relations link to -/

omit [DataProvider P] in
theorem registered_of_areaOfComponent {id : String} {e : Area}
    (found : topo.areaOfComponent id = .ok (some e)) : ∃ areaId, topo.areas.get areaId = some e := by
  rw [areaOfComponent] at found
  split at found
  · cases found
  · split at found
    · cases found
    · rename_i areaId _
      exact ⟨areaId, Except.ok.inj found⟩

omit [DataProvider P] in
theorem registered_of_areaOfApp {id : String} {e : Area}
    (found : topo.areaOfApp id = .ok (some e)) : ∃ areaId, topo.areas.get areaId = some e := by
  rw [areaOfApp] at found
  split at found
  · cases found
  · split at found
    · cases found
    · rename_i areaId _
      exact ⟨areaId, Except.ok.inj found⟩

section Relations
variable {id : String} {query : EntitiesQuery} {response : Response Entities} (usable : Usable topo)
include usable

theorem follow_hosts (answered : componentHosts schemas base topo id query = .ok response) :
    ∀ item ∈ response.data.items, Followable schemas base topo item.href := by
  obtain ⟨_, _, rest⟩ := bind_eq_ok_iff.mp answered
  cases rest
  refine follow_appItems usable (fun e listed => ?_) query
  obtain ⟨key, _, held⟩ := List.mem_filterMap.mp listed
  exact ⟨key, held⟩

theorem follow_componentArea
    (answered : componentBelongsTo schemas base topo id query = .ok response) :
    ∀ item ∈ response.data.items, Followable schemas base topo item.href := by
  obtain ⟨area, looked, rest⟩ := bind_eq_ok_iff.mp answered
  cases rest
  refine follow_belongsToItems usable (fun e there => ?_) query
  rw [there, orEntityNotFound_eq_ok_iff] at looked
  exact registered_of_areaOfComponent looked

theorem follow_appArea (answered : appBelongsTo schemas base topo id query = .ok response) :
    ∀ item ∈ response.data.items, Followable schemas base topo item.href := by
  obtain ⟨area, looked, rest⟩ := bind_eq_ok_iff.mp answered
  cases rest
  refine follow_belongsToItems usable (fun e there => ?_) query
  rw [there, orEntityNotFound_eq_ok_iff] at looked
  exact registered_of_areaOfApp looked

/-- The host is looked up here: a missing one is an error, not a dead link. -/
theorem follow_isLocatedOn (answered : appIsLocatedOn schemas base topo id query = .ok response) :
    ∀ item ∈ response.data.items, Followable schemas base topo item.href := by
  obtain ⟨host, looked, rest⟩ := bind_eq_ok_iff.mp answered
  cases host with
  | none => cases rest
  | some host =>
    cases rest
    rw [orEntityNotFound_eq_ok_iff, componentOfApp] at looked
    intro item member
    rw [List.mem_singleton.mp member]
    split at looked
    · cases looked
    · rename_i app _
      have held : topo.components.get app.isLocatedOn = some host := Except.ok.inj looked
      exact follow_componentReference usable held

theorem follow_contains (answered : areaContains schemas base topo id query = .ok response) :
    ∀ item ∈ response.data.items, Followable schemas base topo item.href := by
  obtain ⟨_, _, rest⟩ := bind_eq_ok_iff.mp answered
  cases rest
  intro item member
  rcases List.mem_append.mp member with component | app
  · refine follow_componentItems usable (fun e listed => ?_) query item component
    obtain ⟨key, _, held⟩ := List.mem_filterMap.mp listed
    exact ⟨key, held⟩
  · refine follow_appItems usable (fun e listed => ?_) query item app
    obtain ⟨key, _, held⟩ := List.mem_filterMap.mp listed
    exact ⟨key, held⟩

end Relations

/-! ### The closure -/

theorem follow_entities {response : Response Entities}
    (each : ∀ item ∈ response.data.items, Followable schemas base topo item.href) :
    ∀ uri ∈ (Payload.entities response).uris, Followable schemas base topo uri := by
  intro uri emitted
  obtain ⟨item, member, rfl⟩ := List.mem_map.mp emitted
  exact each item member

theorem closed_of_hosts_registered (usable : Usable topo) (hosts : HostsRegistered topo) :
    Closed schemas base topo := by
  intro query route payload answered uri emitted
  cases route with
  | rootCapabilities =>
    cases answered
    rcases uris_rootCapabilities emitted with rfl | rfl | rfl
    · exact follow_componentList
    · exact follow_appList
    · exact follow_areaList
  | componentList =>
    cases answered
    refine follow_entities ?_ uri emitted
    exact follow_componentItems usable (fun e => OrderedMap.mem_values_iff.mp) query.entities
  | appList =>
    cases answered
    refine follow_entities ?_ uri emitted
    exact follow_appItems usable (fun e => OrderedMap.mem_values_iff.mp) query.entities
  | areaList =>
    cases answered
    refine follow_entities ?_ uri emitted
    exact follow_areaItems usable (fun e => OrderedMap.mem_values_iff.mp) query.entities
  | componentCapabilities id =>
    obtain ⟨response, ran, rfl⟩ := map_eq_ok_iff.mp answered
    obtain ⟨e, held, shapes⟩ := uris_componentCapabilities ran
    rcases shapes uri emitted with rfl | rfl | ⟨⟨provider, backed⟩, rfl⟩
    · exact follow_componentHosts usable held
    · exact follow_componentBelongsTo usable held
    · exact follow_componentData usable held backed
  | appCapabilities id =>
    obtain ⟨response, ran, rfl⟩ := map_eq_ok_iff.mp answered
    obtain ⟨e, held, shapes⟩ := uris_appCapabilities ran
    rcases shapes uri emitted with rfl | rfl | ⟨⟨provider, backed⟩, rfl⟩
    · obtain ⟨host, found⟩ := hosts id e (getApp_eq_ok_iff.mpr held) _ rfl
      exact follow_component usable (getComponent_eq_ok_iff.mp found)
    · exact follow_appBelongsTo usable held
    · exact follow_appData usable held backed
  | areaCapabilities id =>
    obtain ⟨response, ran, rfl⟩ := map_eq_ok_iff.mp answered
    obtain ⟨e, held, shape⟩ := uris_areaCapabilities ran
    rw [shape uri emitted]
    exact follow_areaContains usable held
  | componentHosts id =>
    obtain ⟨response, ran, rfl⟩ := map_eq_ok_iff.mp answered
    exact follow_entities (follow_hosts usable ran) uri emitted
  | componentBelongsTo id =>
    obtain ⟨response, ran, rfl⟩ := map_eq_ok_iff.mp answered
    exact follow_entities (follow_componentArea usable ran) uri emitted
  | appIsLocatedOn id =>
    obtain ⟨response, ran, rfl⟩ := map_eq_ok_iff.mp answered
    exact follow_entities (follow_isLocatedOn usable ran) uri emitted
  | appBelongsTo id =>
    obtain ⟨response, ran, rfl⟩ := map_eq_ok_iff.mp answered
    exact follow_entities (follow_appArea usable ran) uri emitted
  | areaContains id =>
    obtain ⟨response, ran, rfl⟩ := map_eq_ok_iff.mp answered
    exact follow_entities (follow_contains usable ran) uri emitted
  | _ =>
    -- the data routes emit no URI
    obtain ⟨provider, _, rest⟩ := bind_eq_ok_iff.mp answered
    obtain ⟨response, _, same⟩ := bind_eq_ok_iff.mp rest
    cases same
    cases emitted

/-- The capabilities of an app link to its host whether or not it is there. -/
theorem hosts_registered_of_closed (closed : Closed schemas base topo) : HostsRegistered topo := by
  intro id app found host located
  have answered : ∃ response, appCapabilities schemas base topo id {} = .ok response ∧
      componentHref base host ∈ response.data.uris := by
    refine ⟨_, bind_eq_ok_iff.mpr ⟨app, orEntityNotFound_eq_ok_iff.mpr found, rfl⟩, ?_⟩
    simp [EntityCapabilities.uris, located, componentHref]
  obtain ⟨response, ran, emitted⟩ := answered
  have link := closed {} (.appCapabilities id) (.capabilities response)
    (map_eq_ok_iff.mpr ⟨response, ran, rfl⟩) _ emitted
  exact registered_of_follow_component link

/-! ### Over runs -/

omit [DataProvider P] in
theorem hosts_registered_new : HostsRegistered (new : TopologyState P) := by
  intro id app found
  cases found

omit [DataProvider P] in
/-- A call keeps every host registered exactly when it leaves every app with
its host. -/
theorem hosts_registered_perform_iff (hosts : HostsRegistered topo) (op : TopologyOp P) :
    HostsRegistered (topo.perform op) ↔ KeepsHosts topo op := by
  simp only [HostsRegistered, getApp_eq_ok_iff, getComponent_eq_ok_iff] at hosts ⊢
  cases op with
  | addComponent added =>
    refine iff_of_true (fun id app found host located => ?_) trivial
    obtain ⟨component, held⟩ := hosts id app found host located
    simp only [perform_addComponent, insertComponent, OrderedMap.get_insert]
    split
    · exact ⟨added, rfl⟩
    · exact ⟨component, held⟩
  | addApp added =>
    simp only [KeepsHosts, getComponent_eq_ok_iff, perform_addApp, insertApp, OrderedMap.get_insert]
    constructor
    · intro after host located
      exact after added.id added (by simp) host located
    · intro kept id app found host located
      split at found
      · cases found
        exact kept host located
      · exact hosts id app found host located
  | removeComponent gone =>
    simp only [KeepsHosts, perform_removeComponent, removeComponent]
    cases held : topo.components.get gone with
    | none =>
      refine iff_of_true hosts fun app listed located => ?_
      obtain ⟨id, found⟩ := OrderedMap.mem_values_iff.mp listed
      obtain ⟨component, there⟩ := hosts id app found gone located
      rw [held] at there
      cases there
    | some removed =>
      simp only [OrderedMap.get_shiftRemove]
      constructor
      · intro after app listed located
        obtain ⟨id, found⟩ := OrderedMap.mem_values_iff.mp listed
        obtain ⟨component, there⟩ := after id app found gone located
        simp at there
      · intro kept id app found host located
        have other : host ≠ gone := by
          rintro rfl
          exact kept app (OrderedMap.mem_values_iff.mpr ⟨id, found⟩) located
        simpa [other] using hosts id app found host located
  | addArea added => exact iff_of_true hosts trivial
  | removeApp gone =>
    refine iff_of_true ?_ trivial
    simp only [perform_removeApp, removeApp]
    split
    · exact hosts
    · intro id app found host located
      rw [OrderedMap.get_shiftRemove] at found
      split at found
      · cases found
      · exact hosts id app found host located
  | removeArea gone =>
    refine iff_of_true ?_ trivial
    simp only [perform_removeArea, removeArea]
    split <;> exact hosts

omit [DataProvider P] in
theorem hosts_registered_throughout_iff (ops : List (TopologyOp P)) :
    (∀ done rest, ops = done ++ rest → HostsRegistered (after done)) ↔
      ∀ done op rest, ops = done ++ op :: rest → KeepsHosts (after done) op := by
  constructor
  · intro throughout done op rest shape
    have before := throughout done (op :: rest) shape
    have next := throughout (done ++ [op]) rest (by simp [shape])
    rw [after_append_singleton] at next
    exact (hosts_registered_perform_iff before op).mp next
  · exact Runs.guarded_throughout hosts_registered_new
      fun s op before kept => (hosts_registered_perform_iff before op).mpr kept

omit [DataProvider P] in
/-- In a run that adds no entity under an empty id, no empty id is registered. -/
theorem registered_named {ops : List (TopologyOp P)}
    (named : ∀ op ∈ ops, ∀ entityRef, op.adds = some entityRef → entityRef.id ≠ "")
    (entityRef : EntityRef) (member : entityRef ∈ registered (after ops)) : entityRef.id ≠ "" := by
  obtain ⟨op, among, added⟩ := registered_was_added member
  exact named op among entityRef added

theorem usable_after {ops : List (TopologyOp P)}
    (named : ∀ op ∈ ops, ∀ entityRef, op.adds = some entityRef → entityRef.id ≠ "")
    (lists : ProvidersList (after ops)) : Usable (after ops) where
  component id e held := ⟨componentAreas_keyed ops id e held,
    registered_named named (.component id) (OrderedMap.mem_keys_iff.mpr ⟨e, held⟩)⟩
  app id e held := ⟨hosting_keyed ops id e held,
    registered_named named (.app id) (OrderedMap.mem_keys_iff.mpr ⟨e, held⟩)⟩
  area id e held := ⟨areas_keyed ops held,
    registered_named named (.area id) (OrderedMap.mem_keys_iff.mpr ⟨e, held⟩)⟩
  lists := lists

/-- **Every link of every answer works** in a reachable state exactly when every
registered app is located on a registered component; and that holds in every
state of a run exactly when every call leaves every app with its host. -/
theorem links_work_iff_hosts_registered (schemas : Schemas) (base : String)
    {ops : List (TopologyOp P)}
    (named : ∀ op ∈ ops, ∀ entityRef, op.adds = some entityRef → entityRef.id ≠ "") :
    (∀ done rest, ops = done ++ rest → ProvidersList (after done) →
        (Closed schemas base (after done) ↔ HostsRegistered (after done))) ∧
      ((∀ done rest, ops = done ++ rest → HostsRegistered (after done)) ↔
        ∀ done op rest, ops = done ++ op :: rest → KeepsHosts (after done) op) := by
  refine ⟨fun done rest shape lists => ⟨hosts_registered_of_closed, fun hosts => ?_⟩,
    hosts_registered_throughout_iff ops⟩
  refine closed_of_hosts_registered (usable_after (fun op among => ?_) lists) hosts
  exact named op (by simp [shape, among])

theorem fixed_listings_list (topo : TopologyState FixedListing) : ProvidersList topo where
  component _ _ provider _ _ := ⟨provider.items, rfl⟩
  app _ _ provider _ _ := ⟨provider.items, rfl⟩

/-- An ECU with data, and a diagnostic app on it. -/
def ecuWithApp : List (TopologyOp FixedListing) :=
  [.addComponent { id := "ecu", name := "ECU", dataProvider := some ⟨[]⟩ },
    .addApp { id := "diag", name := "Diagnostics", isLocatedOn := "ecu" }]

theorem ecuWithApp_named :
    ∀ op ∈ ecuWithApp, ∀ entityRef, op.adds = some entityRef → entityRef.id ≠ "" := by
  simp [ecuWithApp, TopologyOp.adds, Component.entityRef, App.entityRef, EntityRef.component,
    EntityRef.app]

theorem ecuWithApp_links_work :
    Closed ⟨.null, .null, .null⟩ "http://localhost:7690/sovd/v1" (after ecuWithApp) := by
  refine ((links_work_iff_hosts_registered _ _ ecuWithApp_named).1 ecuWithApp [] rfl
    (fixed_listings_list _)).mpr fun id app found host located => ?_
  rw [getApp_eq_ok_iff] at found
  simp only [ecuWithApp, after, List.foldl, perform_addComponent, perform_addApp, insertApp,
    insertComponent, OrderedMap.get_insert, new, OrderedMap.get_empty] at found
  split at found
  · cases found
    cases located
    exact ⟨_, rfl⟩
  · cases found

/-- The ECU is removed, and the diagnostic app still names it. -/
def appWithoutEcu : List (TopologyOp FixedListing) := ecuWithApp ++ [.removeComponent "ecu"]

theorem appWithoutEcu_named :
    ∀ op ∈ appWithoutEcu, ∀ entityRef, op.adds = some entityRef → entityRef.id ≠ "" := by
  intro op among
  rcases List.mem_append.mp among with early | last
  · exact ecuWithApp_named op early
  · rw [List.mem_singleton.mp last]
    rintro entityRef ⟨⟩

/-- Removing the ECU leaves the app, which still links to it. -/
theorem removed_host_leaves_dead_link :
    ¬ ∀ ops : List (TopologyOp FixedListing),
      (∀ op ∈ ops, ∀ entityRef, op.adds = some entityRef → entityRef.id ≠ "") →
      ProvidersList (after ops) →
      Closed ⟨.null, .null, .null⟩ "http://localhost:7690/sovd/v1" (after ops) := by
  intro always
  have closed := always _ appWithoutEcu_named (fixed_listings_list _)
  obtain ⟨component, found⟩ := hosts_registered_of_closed closed "diag" _ rfl "ecu" rfl
  cases found

end OpenSovd.Hypermedia
