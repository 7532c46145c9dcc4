import OpenSovd.Addressing
import OpenSovd.Hypermedia
import OpenSovd.Support.Crawl

/-! Crawling the API. A client that starts at the root and follows every link it
is given finds all registered entities with their relations and data listings,
in three rounds, and the hosts that apps name; those that are not registered are
dead ends. It finds nothing else: single data items, facets and the location of an
app have no links to them. -/
namespace OpenSovd.Crawling
open OpenSovd.Support OpenSovd.Support.PercentEncoding OpenSovd.Support.Crawl OpenSovd.Provider
open OpenSovd.Entity OpenSovd.Topology OpenSovd.TopologyRuns OpenSovd.Routes OpenSovd.Responses
open OpenSovd.Handlers OpenSovd.Hypermedia TopologyState Fallible

variable {P : Type} (schemas : Schemas) (base : String) (topo : TopologyState P)

/-- The routes that the answer to a `GET` links to. -/
def linked [DataProvider P] (route : Route) : List Route :=
  match get schemas base topo {} route with
  | .error _ => []
  | .ok payload => payload.uris.filterMap (resolve base)

/-- Entities are registered under their own id, which is not empty. -/
structure WellNamed (topo : TopologyState P) : Prop where
  component : ∀ id e, topo.components.get id = some e → e.id = id ∧ id ≠ ""
  app : ∀ id e, topo.apps.get id = some e → e.id = id ∧ id ≠ ""
  area : ∀ id e, topo.areas.get id = some e → e.id = id ∧ id ≠ ""

/-- The routes a crawl is to find. A host is among them once a registered app names
it. -/
def Site : Route → Prop
  | .rootCapabilities => True
  | .componentList => topo.listComponents ≠ []
  | .appList => topo.listApps ≠ []
  | .areaList => topo.listAreas ≠ []
  | .componentCapabilities id =>
    (∃ e, topo.components.get id = some e) ∨
      ∃ appId app, topo.apps.get appId = some app ∧ app.isLocatedOn = id ∧ id ≠ ""
  | .componentHosts id => ∃ e, topo.components.get id = some e
  | .componentBelongsTo id => ∃ e, topo.components.get id = some e ∧ e.areaId.isSome
  | .componentDataList id => ∃ e, topo.components.get id = some e ∧ e.dataProvider.isSome
  | .appCapabilities id => ∃ e, topo.apps.get id = some e
  | .appBelongsTo id => ∃ e, topo.apps.get id = some e ∧ e.areaId.isSome
  | .appDataList id => ∃ e, topo.apps.get id = some e ∧ e.dataProvider.isSome
  | .areaCapabilities id => ∃ e, topo.areas.get id = some e
  | .areaContains id => ∃ e, topo.areas.get id = some e
  | _ => False

variable {schemas base topo}

/-! ### Where the links lead -/

theorem resolve_route {target : Route} {uri : String}
    (built : uri = base ++ pathOf (target.segmentsWith encodePathSegment))
    (named : ∀ id ∈ target.params, id ≠ "") : resolve base uri = some target := by
  rw [built, resolve_append]
  exact routeOf_path serverEncoder (Route.ending_of_named named)

theorem resolve_item (collection : String) {id : String} {target : Route}
    (spelled : target.segmentsWith encodePathSegment = [collection, encodePathSegment id])
    (params : target.params = [id]) (named : id ≠ "") :
    resolve base (base ++ ("/" ++ collection ++ "/") ++ encodePathSegment id) = some target := by
  refine resolve_route (String.toList_inj.mp ?_) (by simpa [params] using named)
  simp [pathOf, spelled]

theorem resolve_relation (collection relation : String) {id : String} {target : Route}
    (spelled : target.segmentsWith encodePathSegment = [collection, encodePathSegment id, relation])
    (params : target.params = [id]) (named : id ≠ "") :
    resolve base (base ++ ("/" ++ collection ++ "/") ++ encodePathSegment id ++ ("/" ++ relation)) =
      some target := by
  refine resolve_route (String.toList_inj.mp ?_) (by simpa [params] using named)
  simp [pathOf, spelled]

theorem resolve_component {id : String} (named : id ≠ "") :
    resolve base (componentHref base id) = some (.componentCapabilities id) :=
  resolve_item "components" rfl rfl named

theorem resolve_app {id : String} (named : id ≠ "") :
    resolve base (appHref base id) = some (.appCapabilities id) :=
  resolve_item "apps" rfl rfl named

theorem resolve_area {id : String} (named : id ≠ "") :
    resolve base (areaHref base id) = some (.areaCapabilities id) :=
  resolve_item "areas" rfl rfl named

/-- The links of some items lead to the routes of the items. -/
theorem mem_resolved {α : Type} {items : List α} {href : α → String} {target : α → Route}
    (each : ∀ item ∈ items, resolve base (href item) = some (target item)) {route : Route} :
    route ∈ (items.map href).filterMap (resolve base) ↔ ∃ item ∈ items, target item = route := by
  rw [List.filterMap_map, List.mem_filterMap]
  constructor
  · rintro ⟨item, member, resolved⟩
    refine ⟨item, member, ?_⟩
    exact Option.some.inj ((each item member).symm.trans resolved)
  · rintro ⟨item, member, rfl⟩
    exact ⟨item, member, each item member⟩

/-- An optional link leads to its route, if it is there. -/
theorem mem_resolved_toList {β : Type} {value : Option β} {uri : String} {target route : Route}
    (leads : resolve base uri = some target) :
    route ∈ (value.map fun _ => uri).toList.filterMap (resolve base) ↔
      value.isSome ∧ target = route := by
  cases value <;> simp [leads, eq_comm]

theorem mem_resolved_if {c : Prop} [Decidable c] {uri : String} {target route : Route}
    (leads : resolve base uri = some target) :
    route ∈ (if c then [uri] else []).filterMap (resolve base) ↔ c ∧ target = route := by
  by_cases holds : c <;> simp [holds, leads, eq_comm]

theorem mem_resolved_singleton {uri : String} {target route : Route}
    (leads : resolve base uri = some target) :
    route ∈ [uri].filterMap (resolve base) ↔ target = route := by
  simp [leads, eq_comm]

variable [DataProvider P]

theorem linked_of_ok {route : Route} {payload : Payload}
    (answered : get schemas base topo {} route = .ok payload) :
    linked schemas base topo route = payload.uris.filterMap (resolve base) := by
  rw [linked, answered]

theorem linked_of_error {route : Route} {error : Error}
    (refused : get schemas base topo {} route = .error error) :
    linked schemas base topo route = [] := by
  rw [linked, refused]

/-- Data routes link to nothing. -/
theorem linked_of_no_uris {route : Route}
    (none : ∀ payload, get schemas base topo {} route = .ok payload → payload.uris = []) :
    linked schemas base topo route = [] := by
  cases answered : get schemas base topo {} route with
  | error error => exact linked_of_error answered
  | ok payload => rw [linked_of_ok answered, none payload answered, List.filterMap_nil]

/-! ### What every route links to -/

theorem linked_root {route : Route} : route ∈ linked schemas base topo .rootCapabilities ↔
    (topo.listComponents ≠ [] ∧ Route.componentList = route) ∨
      (topo.listApps ≠ [] ∧ Route.appList = route) ∨
        (topo.listAreas ≠ [] ∧ Route.areaList = route) := by
  have components : resolve base (base ++ "/components") = some .componentList :=
    resolve_append base "/components"
  have apps : resolve base (base ++ "/apps") = some .appList := resolve_append base "/apps"
  have areas : resolve base (base ++ "/areas") = some .areaList := resolve_append base "/areas"
  have shape : (rootCapabilities schemas base topo {}).data.uris =
      (if topo.listAreas.length > 0 then [base ++ "/areas"] else []) ++
        ((if topo.listComponents.length > 0 then [base ++ "/components"] else []) ++
          if topo.listApps.length > 0 then [base ++ "/apps"] else []) := by
    simp only [rootCapabilities]
    split <;> split <;> split <;> rfl
  have answered : get schemas base topo {} .rootCapabilities =
      .ok (.capabilities (rootCapabilities schemas base topo {})) := rfl
  rw [linked_of_ok answered, Payload.uris, shape]
  simp only [List.filterMap_append, List.mem_append, mem_resolved_if components,
    mem_resolved_if apps, mem_resolved_if areas, gt_iff_lt, List.length_pos_iff]
  constructor
  · rintro (areas | components | apps)
    · exact Or.inr (Or.inr areas)
    · exact Or.inl components
    · exact Or.inr (Or.inl apps)
  · rintro (components | apps | areas)
    · exact Or.inr (Or.inl components)
    · exact Or.inr (Or.inr apps)
    · exact Or.inl areas

theorem linked_component (named : WellNamed topo) {id : String} {route : Route} :
    route ∈ linked schemas base topo (.componentCapabilities id) ↔
      ∃ e, topo.components.get id = some e ∧
        ((e.dataProvider.isSome ∧ Route.componentDataList id = route) ∨
          (e.areaId.isSome ∧ Route.componentBelongsTo id = route) ∨
            Route.componentHosts id = route) := by
  cases held : topo.components.get id with
  | none =>
    have refused : get schemas base topo {} (.componentCapabilities id) =
        .error (.entityNotFound id) := by
      simp only [Handlers.get, componentCapabilities, getComponent, held]
      rfl
    simp [linked_of_error refused]
  | some e =>
    have plain := (named.component id e held).2
    have data : resolve base (base ++ "/components/" ++ encodePathSegment id ++ "/data") =
        some (.componentDataList id) :=
      resolve_relation "components" "data" rfl rfl plain
    have belongsTo : resolve base
        (base ++ "/components/" ++ encodePathSegment id ++ "/belongs-to") =
          some (.componentBelongsTo id) :=
      resolve_relation "components" "belongs-to" rfl rfl plain
    have hosts : resolve base (base ++ "/components/" ++ encodePathSegment id ++ "/hosts") =
        some (.componentHosts id) :=
      resolve_relation "components" "hosts" rfl rfl plain
    obtain ⟨response, answered, shape⟩ : ∃ response,
        get schemas base topo {} (.componentCapabilities id) = .ok (.capabilities response) ∧
        response.data.uris =
          (e.dataProvider.map fun _ =>
            base ++ "/components/" ++ encodePathSegment id ++ "/data").toList ++
          ((e.areaId.map fun _ =>
            base ++ "/components/" ++ encodePathSegment id ++ "/belongs-to").toList ++
          [base ++ "/components/" ++ encodePathSegment id ++ "/hosts"]) := by
      simp only [Handlers.get, componentCapabilities, getComponent, held]
      refine ⟨_, rfl, ?_⟩
      simp only []
      cases e.dataProvider <;> cases e.areaId <;> rfl
    rw [linked_of_ok answered, Payload.uris, shape]
    simp only [List.filterMap_append, List.mem_append, mem_resolved_toList data,
      mem_resolved_toList belongsTo, mem_resolved_singleton hosts, Option.some.injEq,
      exists_eq_left']

/-- The host is linked to unless its id is empty; then the link leads nowhere. -/
theorem linked_app (named : WellNamed topo) {id : String} {route : Route} :
    route ∈ linked schemas base topo (.appCapabilities id) ↔
      ∃ e, topo.apps.get id = some e ∧
        ((e.dataProvider.isSome ∧ Route.appDataList id = route) ∨
          (e.areaId.isSome ∧ Route.appBelongsTo id = route) ∨
            (e.isLocatedOn ≠ "" ∧ Route.componentCapabilities e.isLocatedOn = route)) := by
  cases held : topo.apps.get id with
  | none =>
    have refused : get schemas base topo {} (.appCapabilities id) =
        .error (.entityNotFound id) := by
      simp only [Handlers.get, appCapabilities, getApp, held]
      rfl
    simp [linked_of_error refused]
  | some e =>
    have plain := (named.app id e held).2
    have data : resolve base (base ++ "/apps/" ++ encodePathSegment id ++ "/data") =
        some (.appDataList id) :=
      resolve_relation "apps" "data" rfl rfl plain
    have belongsTo : resolve base
        (base ++ "/apps/" ++ encodePathSegment id ++ "/belongs-to") = some (.appBelongsTo id) :=
      resolve_relation "apps" "belongs-to" rfl rfl plain
    have host : route ∈ [componentHref base e.isLocatedOn].filterMap (resolve base) ↔
        e.isLocatedOn ≠ "" ∧ Route.componentCapabilities e.isLocatedOn = route := by
      by_cases empty : e.isLocatedOn = ""
      · have same : componentHref base "" = base ++ "/components/" := by
          apply String.toList_inj.mp
          simp [componentHref, encodePathSegment, utf8PercentEncode, bytes]
        have dead : routeOf "/components/" = none := by decide
        simp [empty, same, resolve_append, dead]
      · rw [mem_resolved_singleton (resolve_component empty)]
        simp [empty]
    obtain ⟨response, answered, shape⟩ : ∃ response,
        get schemas base topo {} (.appCapabilities id) = .ok (.capabilities response) ∧
        response.data.uris =
          (e.dataProvider.map fun _ => base ++ "/apps/" ++ encodePathSegment id ++ "/data").toList ++
          ((e.areaId.map fun _ =>
            base ++ "/apps/" ++ encodePathSegment id ++ "/belongs-to").toList ++
          [componentHref base e.isLocatedOn]) := by
      simp only [Handlers.get, appCapabilities, getApp, held]
      refine ⟨_, rfl, ?_⟩
      simp only [App.componentId]
      cases e.dataProvider <;> cases e.areaId <;> rfl
    rw [linked_of_ok answered, Payload.uris, shape]
    simp only [List.filterMap_append, List.mem_append, mem_resolved_toList data,
      mem_resolved_toList belongsTo, host, Option.some.injEq, exists_eq_left']

theorem linked_area (named : WellNamed topo) {id : String} {route : Route} :
    route ∈ linked schemas base topo (.areaCapabilities id) ↔
      ∃ e, topo.areas.get id = some e ∧ Route.areaContains id = route := by
  cases held : topo.areas.get id with
  | none =>
    have refused : get schemas base topo {} (.areaCapabilities id) =
        .error (.entityNotFound id) := by
      simp only [Handlers.get, areaCapabilities, getArea, held]
      rfl
    simp [linked_of_error refused]
  | some e =>
    have plain := (named.area id e held).2
    have contains : resolve base (base ++ "/areas/" ++ encodePathSegment id ++ "/contains") =
        some (.areaContains id) :=
      resolve_relation "areas" "contains" rfl rfl plain
    obtain ⟨response, answered, shape⟩ : ∃ response,
        get schemas base topo {} (.areaCapabilities id) = .ok (.capabilities response) ∧
        response.data.uris = [base ++ "/areas/" ++ encodePathSegment id ++ "/contains"] := by
      simp only [Handlers.get, areaCapabilities, getArea, held]
      exact ⟨_, rfl, rfl⟩
    rw [linked_of_ok answered, Payload.uris, shape]
    simp only [mem_resolved_singleton contains, Option.some.injEq, exists_eq_left']

/-! ### Lists -/

omit [DataProvider P] in
theorem componentItems_hrefs (components : List (Component P)) :
    (componentItems base {} components).map EntityReference.href =
      components.map fun e => componentHref base e.id := by
  have all : components.filter (fun e => matchesTags {} e.tags) = components :=
    List.filter_eq_self.mpr fun _ _ => rfl
  rw [componentItems, all, List.map_map]
  rfl

omit [DataProvider P] in
theorem appItems_hrefs (apps : List (App P)) :
    (appItems base {} apps).map EntityReference.href = apps.map fun e => appHref base e.id := by
  have all : apps.filter (fun e => matchesTags {} e.tags) = apps :=
    List.filter_eq_self.mpr fun _ _ => rfl
  rw [appItems, all, List.map_map]
  rfl

theorem areaItems_hrefs (areas : List Area) :
    (areaItems base {} areas).map EntityReference.href = areas.map fun e => areaHref base e.id := by
  have all : areas.filter (fun e => matchesTags {} e.tags) = areas :=
    List.filter_eq_self.mpr fun _ _ => rfl
  rw [areaItems, all, List.map_map]
  rfl

/-- A listing links to what is registered, each under its own id. -/
theorem linked_items {E : Type} {table : OrderedMap String E} {listing : Route}
    {payload : Payload} {own : E → String} (href : String → String) {target : String → Route}
    (answered : get schemas base topo {} listing = .ok payload)
    (hrefs : payload.uris = table.values.map fun e => href (own e))
    (named : ∀ id e, table.get id = some e → own e = id ∧ id ≠ "")
    (leads : ∀ {id}, id ≠ "" → resolve base (href id) = some (target id)) {route : Route} :
    route ∈ linked schemas base topo listing ↔ ∃ e ∈ table.values, target (own e) = route := by
  have each : ∀ e ∈ table.values, resolve base (href (own e)) = some (target (own e)) := by
    intro e listed
    obtain ⟨id, held⟩ := OrderedMap.mem_values_iff.mp listed
    obtain ⟨same, plain⟩ := named id e held
    exact leads (same ▸ plain)
  rw [linked_of_ok answered, hrefs, mem_resolved each]

theorem linked_componentList (named : WellNamed topo) {route : Route} :
    route ∈ linked schemas base topo .componentList ↔
      ∃ e ∈ topo.listComponents, Route.componentCapabilities e.id = route := by
  have answered : get schemas base topo {} .componentList =
      .ok (.entities (componentList schemas base topo {})) := rfl
  exact linked_items (componentHref base) answered (componentItems_hrefs topo.listComponents)
    named.component resolve_component

theorem linked_appList (named : WellNamed topo) {route : Route} :
    route ∈ linked schemas base topo .appList ↔
      ∃ e ∈ topo.listApps, Route.appCapabilities e.id = route := by
  have answered : get schemas base topo {} .appList =
      .ok (.entities (appList schemas base topo {})) := rfl
  exact linked_items (appHref base) answered (appItems_hrefs topo.listApps) named.app resolve_app

theorem linked_areaList (named : WellNamed topo) {route : Route} :
    route ∈ linked schemas base topo .areaList ↔
      ∃ e ∈ topo.listAreas, Route.areaCapabilities e.id = route := by
  have answered : get schemas base topo {} .areaList =
      .ok (.entities (areaList schemas base topo {})) := rfl
  exact linked_items (areaHref base) answered (areaItems_hrefs topo.listAreas) named.area
    resolve_area

/-! ### Relations lead to registered entities only -/

/-- The item leads to a route of the site. -/
def Inside (base : String) (topo : TopologyState P) (item : EntityReference) : Prop :=
  ∃ target, resolve base item.href = some target ∧ Site topo target

theorem site_of_entities {route target : Route} (answer : Except Error (Response Entities))
    (handled : get schemas base topo {} route = answer.map .entities)
    (inside : ∀ response, answer = .ok response → ∀ item ∈ response.data.items, Inside base topo item)
    (link : target ∈ linked schemas base topo route) : Site topo target := by
  cases answer with
  | error error =>
    rw [linked_of_error handled] at link
    cases link
  | ok response =>
    rw [linked_of_ok handled] at link
    obtain ⟨uri, emitted, resolved⟩ := List.mem_filterMap.mp link
    obtain ⟨item, member, rfl⟩ := List.mem_map.mp emitted
    obtain ⟨found, leads, here⟩ := inside response rfl item member
    rw [leads] at resolved
    cases resolved
    exact here

omit [DataProvider P] in
theorem inside_componentItems (named : WellNamed topo) {components : List (Component P)}
    (registered : ∀ e ∈ components, ∃ id, topo.components.get id = some e) (query : EntitiesQuery) :
    ∀ item ∈ componentItems base query components, Inside base topo item := by
  intro item member
  obtain ⟨e, listed, rfl⟩ := List.mem_map.mp member
  obtain ⟨id, held⟩ := registered e (List.mem_filter.mp listed).1
  obtain ⟨own, plain⟩ := named.component id e held
  subst own
  exact ⟨.componentCapabilities e.id, resolve_component plain, Or.inl ⟨e, held⟩⟩

omit [DataProvider P] in
theorem inside_appItems (named : WellNamed topo) {apps : List (App P)}
    (registered : ∀ e ∈ apps, ∃ id, topo.apps.get id = some e) (query : EntitiesQuery) :
    ∀ item ∈ appItems base query apps, Inside base topo item := by
  intro item member
  obtain ⟨e, listed, rfl⟩ := List.mem_map.mp member
  obtain ⟨id, held⟩ := registered e (List.mem_filter.mp listed).1
  obtain ⟨own, plain⟩ := named.app id e held
  subst own
  exact ⟨.appCapabilities e.id, resolve_app plain, e, held⟩

omit [DataProvider P] in
theorem inside_belongsToItems (named : WellNamed topo) {area : Option Area}
    (registered : ∀ e, area = some e → ∃ id, topo.areas.get id = some e) (query : EntitiesQuery) :
    ∀ item ∈ belongsToItems base query area, Inside base topo item := by
  intro item member
  cases area with
  | none => cases member
  | some e =>
    obtain ⟨id, held⟩ := registered e rfl
    obtain ⟨own, plain⟩ := named.area id e held
    subst own
    simp only [belongsToItems] at member
    split at member
    · rw [List.mem_singleton.mp member]
      exact ⟨.areaCapabilities e.id, resolve_area plain, e, held⟩
    · cases member

theorem site_of_hosts (named : WellNamed topo) {id : String} {target : Route}
    (link : target ∈ linked schemas base topo (.componentHosts id)) : Site topo target := by
  refine site_of_entities (componentHosts schemas base topo id {}) rfl ?_ link
  intro response answered
  obtain ⟨_, _, rest⟩ := bind_eq_ok_iff.mp answered
  cases rest
  refine inside_appItems named (fun e listed => ?_) {}
  obtain ⟨key, _, held⟩ := List.mem_filterMap.mp listed
  exact ⟨key, held⟩

theorem site_of_componentArea (named : WellNamed topo) {id : String} {target : Route}
    (link : target ∈ linked schemas base topo (.componentBelongsTo id)) : Site topo target := by
  refine site_of_entities (componentBelongsTo schemas base topo id {}) rfl ?_ link
  intro response answered
  obtain ⟨area, looked, rest⟩ := bind_eq_ok_iff.mp answered
  cases rest
  refine inside_belongsToItems named (fun e there => ?_) {}
  rw [there, orEntityNotFound_eq_ok_iff] at looked
  exact registered_of_areaOfComponent looked

theorem site_of_appArea (named : WellNamed topo) {id : String} {target : Route}
    (link : target ∈ linked schemas base topo (.appBelongsTo id)) : Site topo target := by
  refine site_of_entities (appBelongsTo schemas base topo id {}) rfl ?_ link
  intro response answered
  obtain ⟨area, looked, rest⟩ := bind_eq_ok_iff.mp answered
  cases rest
  refine inside_belongsToItems named (fun e there => ?_) {}
  rw [there, orEntityNotFound_eq_ok_iff] at looked
  exact registered_of_areaOfApp looked

theorem site_of_contains (named : WellNamed topo) {id : String} {target : Route}
    (link : target ∈ linked schemas base topo (.areaContains id)) : Site topo target := by
  refine site_of_entities (areaContains schemas base topo id {}) rfl ?_ link
  intro response answered
  obtain ⟨_, _, rest⟩ := bind_eq_ok_iff.mp answered
  cases rest
  intro item member
  rcases List.mem_append.mp member with component | app
  · refine inside_componentItems named (fun e listed => ?_) {} item component
    obtain ⟨key, _, held⟩ := List.mem_filterMap.mp listed
    exact ⟨key, held⟩
  · refine inside_appItems named (fun e listed => ?_) {} item app
    obtain ⟨key, _, held⟩ := List.mem_filterMap.mp listed
    exact ⟨key, held⟩

/-! ### The crawl -/

/-- No link leads out of the site. -/
theorem site_closed (named : WellNamed topo) (route target : Route) (here : Site topo route)
    (link : target ∈ linked schemas base topo route) : Site topo target := by
  cases route with
  | rootCapabilities =>
    rcases linked_root.mp link with ⟨some, rfl⟩ | ⟨some, rfl⟩ | ⟨some, rfl⟩ <;> exact some
  | componentList =>
    obtain ⟨e, listed, rfl⟩ := (linked_componentList named).mp link
    obtain ⟨id, held⟩ := OrderedMap.mem_values_iff.mp listed
    exact Or.inl ⟨e, (named.component id e held).1 ▸ held⟩
  | appList =>
    obtain ⟨e, listed, rfl⟩ := (linked_appList named).mp link
    obtain ⟨id, held⟩ := OrderedMap.mem_values_iff.mp listed
    exact ⟨e, (named.app id e held).1 ▸ held⟩
  | areaList =>
    obtain ⟨e, listed, rfl⟩ := (linked_areaList named).mp link
    obtain ⟨id, held⟩ := OrderedMap.mem_values_iff.mp listed
    exact ⟨e, (named.area id e held).1 ▸ held⟩
  | componentCapabilities id =>
    obtain ⟨e, held, data | area | hosts⟩ := (linked_component named).mp link
    · obtain ⟨backed, rfl⟩ := data
      exact ⟨e, held, backed⟩
    · obtain ⟨placed, rfl⟩ := area
      exact ⟨e, held, placed⟩
    · subst hosts
      exact ⟨e, held⟩
  | appCapabilities id =>
    obtain ⟨e, held, data | area | host⟩ := (linked_app named).mp link
    · obtain ⟨backed, rfl⟩ := data
      exact ⟨e, held, backed⟩
    · obtain ⟨placed, rfl⟩ := area
      exact ⟨e, held, placed⟩
    · obtain ⟨plain, rfl⟩ := host
      exact Or.inr ⟨id, e, held, rfl, plain⟩
  | areaCapabilities id =>
    obtain ⟨e, held, rfl⟩ := (linked_area named).mp link
    exact ⟨e, held⟩
  | componentHosts id => exact site_of_hosts named link
  | componentBelongsTo id => exact site_of_componentArea named link
  | appBelongsTo id => exact site_of_appArea named link
  | areaContains id => exact site_of_contains named link
  | componentDataList id | appDataList id =>
    rw [linked_of_no_uris] at link
    · cases link
    · intro payload answered
      obtain ⟨provider, _, rest⟩ := bind_eq_ok_iff.mp answered
      obtain ⟨response, _, same⟩ := bind_eq_ok_iff.mp rest
      cases same
      rfl
  | _ => exact here.elim

/-- The lists are found in the first round, entities in the second and what
belongs to them in the third. -/
theorem site_found (named : WellNamed topo) (route : Route) (here : Site topo route) :
    route ∈ rounds (linked schemas base topo) .rootCapabilities 3 := by
  have root : Route.rootCapabilities ∈ rounds (linked schemas base topo) .rootCapabilities 0 :=
    List.mem_singleton_self _
  have componentList (some : topo.listComponents ≠ []) :
      Route.componentList ∈ rounds (linked schemas base topo) .rootCapabilities 1 :=
    mem_rounds_of_next root (linked_root.mpr (Or.inl ⟨some, rfl⟩))
  have appList (some : topo.listApps ≠ []) :
      Route.appList ∈ rounds (linked schemas base topo) .rootCapabilities 1 :=
    mem_rounds_of_next root (linked_root.mpr (Or.inr (Or.inl ⟨some, rfl⟩)))
  have areaList (some : topo.listAreas ≠ []) :
      Route.areaList ∈ rounds (linked schemas base topo) .rootCapabilities 1 :=
    mem_rounds_of_next root (linked_root.mpr (Or.inr (Or.inr ⟨some, rfl⟩)))
  have component {id : String} {e : Component P} (held : topo.components.get id = some e) :
      Route.componentCapabilities id ∈ rounds (linked schemas base topo) .rootCapabilities 2 := by
    have listed : e ∈ topo.listComponents := OrderedMap.mem_values_iff.mpr ⟨id, held⟩
    refine mem_rounds_of_next (componentList (List.ne_nil_of_mem listed)) ?_
    exact (linked_componentList named).mpr ⟨e, listed, by rw [(named.component id e held).1]⟩
  have app {id : String} {e : App P} (held : topo.apps.get id = some e) :
      Route.appCapabilities id ∈ rounds (linked schemas base topo) .rootCapabilities 2 := by
    have listed : e ∈ topo.listApps := OrderedMap.mem_values_iff.mpr ⟨id, held⟩
    refine mem_rounds_of_next (appList (List.ne_nil_of_mem listed)) ?_
    exact (linked_appList named).mpr ⟨e, listed, by rw [(named.app id e held).1]⟩
  have area {id : String} {e : Area} (held : topo.areas.get id = some e) :
      Route.areaCapabilities id ∈ rounds (linked schemas base topo) .rootCapabilities 2 := by
    have listed : e ∈ topo.listAreas := OrderedMap.mem_values_iff.mpr ⟨id, held⟩
    refine mem_rounds_of_next (areaList (List.ne_nil_of_mem listed)) ?_
    exact (linked_areaList named).mpr ⟨e, listed, by rw [(named.area id e held).1]⟩
  cases route with
  | rootCapabilities => exact rounds_mono (by omega) root
  | componentList => exact rounds_mono (by omega) (componentList here)
  | appList => exact rounds_mono (by omega) (appList here)
  | areaList => exact rounds_mono (by omega) (areaList here)
  | componentCapabilities id =>
    rcases here with ⟨e, held⟩ | ⟨appId, e, held, rfl, plain⟩
    · exact rounds_mono (by omega) (component held)
    · refine mem_rounds_of_next (app held) ((linked_app named).mpr ⟨e, held, ?_⟩)
      exact Or.inr (Or.inr ⟨plain, rfl⟩)
  | componentHosts id =>
    obtain ⟨e, held⟩ := here
    exact mem_rounds_of_next (component held)
      ((linked_component named).mpr ⟨e, held, Or.inr (Or.inr rfl)⟩)
  | componentBelongsTo id =>
    obtain ⟨e, held, placed⟩ := here
    exact mem_rounds_of_next (component held)
      ((linked_component named).mpr ⟨e, held, Or.inr (Or.inl ⟨placed, rfl⟩)⟩)
  | componentDataList id =>
    obtain ⟨e, held, backed⟩ := here
    exact mem_rounds_of_next (component held)
      ((linked_component named).mpr ⟨e, held, Or.inl ⟨backed, rfl⟩⟩)
  | appCapabilities id =>
    obtain ⟨e, held⟩ := here
    exact rounds_mono (by omega) (app held)
  | appBelongsTo id =>
    obtain ⟨e, held, placed⟩ := here
    exact mem_rounds_of_next (app held)
      ((linked_app named).mpr ⟨e, held, Or.inr (Or.inl ⟨placed, rfl⟩)⟩)
  | appDataList id =>
    obtain ⟨e, held, backed⟩ := here
    exact mem_rounds_of_next (app held) ((linked_app named).mpr ⟨e, held, Or.inl ⟨backed, rfl⟩⟩)
  | areaCapabilities id =>
    obtain ⟨e, held⟩ := here
    exact rounds_mono (by omega) (area held)
  | areaContains id =>
    obtain ⟨e, held⟩ := here
    exact mem_rounds_of_next (area held) ((linked_area named).mpr ⟨e, held, rfl⟩)
  | _ => exact here.elim

/-- A host that is not registered is not found by its handler. -/
theorem dead_end {id : String} (missing : topo.components.get id = none) :
    get schemas base topo {} (.componentCapabilities id) = .error (.entityNotFound id) := by
  have unknown : topo.getComponent id = .error (.notFound (.component id)) := by
    rw [getComponent, missing]
  change (componentCapabilities schemas base topo id {}).map _ = _
  rw [componentCapabilities, unknown]
  rfl

omit [DataProvider P] in
theorem wellNamed_after {ops : List (TopologyOp P)}
    (named : ∀ op ∈ ops, ∀ entityRef, op.adds = some entityRef → entityRef.id ≠ "") :
    WellNamed (after ops) where
  component id e held := ⟨componentAreas_keyed ops id e held,
    registered_named named (.component id) (OrderedMap.mem_keys_iff.mpr ⟨e, held⟩)⟩
  app id e held := ⟨hosting_keyed ops id e held,
    registered_named named (.app id) (OrderedMap.mem_keys_iff.mpr ⟨e, held⟩)⟩
  area id e held := ⟨areas_keyed ops held,
    registered_named named (.area id) (OrderedMap.mem_keys_iff.mpr ⟨e, held⟩)⟩

/-- **A crawl finds the site.** In every state of a run that adds no entity
under an empty id, the routes that following links from the root can reach are
those of the site, and three rounds reach them all. Where a host is found that is
not registered, its handler does not find it. -/
theorem crawl_finds_site (schemas : Schemas) (base : String) {ops : List (TopologyOp P)}
    (named : ∀ op ∈ ops, ∀ entityRef, op.adds = some entityRef → entityRef.id ≠ "")
    (route : Route) :
    (Reachable (linked schemas base (after ops)) .rootCapabilities route ↔
        Site (after ops) route) ∧
      (route ∈ rounds (linked schemas base (after ops)) .rootCapabilities 3 ↔
        Site (after ops) route) ∧
      ∀ id, route = .componentCapabilities id → (after ops).components.get id = none →
        get schemas base (after ops) {} route = .error (.entityNotFound id) := by
  have closed : ∀ from_ target, Site (after ops) from_ →
      target ∈ linked schemas base (after ops) from_ → Site (after ops) target :=
    site_closed (wellNamed_after named)
  obtain ⟨reached, found⟩ :=
    reachable_iff_of_saturated trivial closed (site_found (wellNamed_after named)) route
  refine ⟨reached, found, ?_⟩
  rintro id rfl missing
  exact dead_end missing

/-- The data listing of the ECU is found, and nothing leads to the location of the
app. Without the ECU the app leads to a dead end. -/
theorem ecuWithApp_crawled :
    (Route.componentDataList "ecu" ∈
        rounds (linked ⟨.null, .null, .null⟩ "" (after ecuWithApp)) .rootCapabilities 3 ∧
      ¬ Reachable (linked ⟨.null, .null, .null⟩ "" (after ecuWithApp)) .rootCapabilities
        (.appIsLocatedOn "diag")) ∧
      Route.componentCapabilities "ecu" ∈
        rounds (linked ⟨.null, .null, .null⟩ "" (after appWithoutEcu)) .rootCapabilities 3 ∧
      get ⟨.null, .null, .null⟩ "" (after appWithoutEcu) {} (.componentCapabilities "ecu") =
        .error (.entityNotFound "ecu") := by
  have ruined := crawl_finds_site ⟨.null, .null, .null⟩ "" appWithoutEcu_named
    (.componentCapabilities "ecu")
  refine ⟨⟨(crawl_finds_site _ "" ecuWithApp_named _).2.1.mpr ⟨_, rfl, rfl⟩, fun reached => ?_⟩,
    ruined.2.1.mpr (Or.inr ⟨"diag", _, rfl, rfl, by simp⟩), ruined.2.2 _ rfl rfl⟩
  exact (crawl_finds_site _ "" ecuWithApp_named _).1.mp reached

end OpenSovd.Crawling
