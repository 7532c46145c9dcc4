import OpenSovd.Handlers

/-! The tag filter of the entity listings. Every handler that is asked with tags
writes the filter out by itself; all but one answer with those items of the
untagged answer that carry one of the tags. The link from an app to its host
does not look at them. -/
namespace OpenSovd.TagFilters
open OpenSovd.Support OpenSovd.Provider OpenSovd.Entity OpenSovd.Topology OpenSovd.Routes
open OpenSovd.Responses OpenSovd.Handlers Fallible

/-- The item passes: there is nothing to look for, or it carries one of the tags. -/
def Carries (tags : List String) (item : EntityReference) : Prop :=
  tags = [] ∨ ∃ tag ∈ tags, tag ∈ item.tags.getD []

instance (tags : List String) : DecidablePred (Carries tags) := fun _ => by
  unfold Carries
  infer_instance

def untagged (query : EntitiesQuery) : EntitiesQuery := { query with tags := [] }

/-! ### Items -/

theorem getD_unlessEmpty (tags : List String) : (unlessEmpty tags).getD [] = tags := by
  cases tags <;> rfl

theorem matchesTags_iff {query : EntitiesQuery} {tags : List String} :
    matchesTags query tags = true ↔ query.tags = [] ∨ ∃ tag ∈ query.tags, tag ∈ tags := by
  simp [matchesTags]

/-- Looking twice changes nothing. -/
theorem areaMatchesTags_eq (query : EntitiesQuery) (tags : List String) :
    areaMatchesTags query tags = matchesTags query tags := by
  cases tags <;> simp [areaMatchesTags, matchesTags]

/-- A listing of any kind, put together from references that keep the tags. -/
theorem items_filtered {E : Type} (tagsOf : E → List String) (reference : E → EntityReference)
    (keeps : ∀ e, (reference e).tags = unlessEmpty (tagsOf e)) (query : EntitiesQuery)
    (entities : List E) :
    (entities.filter fun e => matchesTags query (tagsOf e)).map reference =
      ((entities.filter fun e => matchesTags (untagged query) (tagsOf e)).map reference).filter
        fun item => Carries query.tags item := by
  have all : (entities.filter fun e => matchesTags (untagged query) (tagsOf e)) = entities :=
    List.filter_eq_self.mpr fun e _ => rfl
  rw [all, List.filter_map]
  congr 1
  refine List.filter_congr fun e _ => ?_
  rw [Bool.eq_iff_iff, matchesTags_iff]
  simp [Carries, keeps, getD_unlessEmpty]

variable {P : Type} {schemas : Schemas} {base : String} {topo : TopologyState P}

theorem componentItems_filtered (query : EntitiesQuery) (components : List (Component P)) :
    componentItems base query components =
      (componentItems base (untagged query) components).filter fun item => Carries query.tags item :=
  items_filtered Component.tags (componentReference base) (fun _ => rfl) query components

theorem appItems_filtered (query : EntitiesQuery) (apps : List (App P)) :
    appItems base query apps =
      (appItems base (untagged query) apps).filter fun item => Carries query.tags item :=
  items_filtered App.tags (appReference base) (fun _ => rfl) query apps

theorem areaItems_filtered (query : EntitiesQuery) (areas : List Area) :
    areaItems base query areas =
      (areaItems base (untagged query) areas).filter fun item => Carries query.tags item :=
  items_filtered Area.tags (areaReference base) (fun _ => rfl) query areas

/-- The guarded push is the filter on a list of at most one area. -/
theorem belongsToItems_eq (query : EntitiesQuery) (area : Option Area) :
    belongsToItems base query area = areaItems base query area.toList := by
  cases area with
  | none => rfl
  | some area =>
    simp only [belongsToItems, areaMatchesTags_eq, areaItems, Option.toList_some]
    by_cases passes : matchesTags query area.tags = true <;> simp [passes]

/-! ### Answers -/

section Answers
variable [DataProvider P]

/-- The items of the untagged answer that carry one of the tags. -/
def filtered (tags : List String) (answer : Response Entities) : Response Entities :=
  { answer with data := ⟨answer.data.items.filter fun item => Carries tags item⟩ }

/-- Where the request succeeds without its tags, it succeeds with them, with the
items that carry one. -/
def FiltersTags (schemas : Schemas) (base : String) (topo : TopologyState P) (query : Query)
    (route : Route) : Prop :=
  ∀ answer, get schemas base topo { query with entities := untagged query.entities } route =
      .ok (.entities answer) →
    get schemas base topo query route = .ok (.entities (filtered query.entities.tags answer))

/-- An app's host is asked for without tags, or with one it carries. -/
def HostCarries (topo : TopologyState P) (query : EntitiesQuery) (route : Route) : Prop :=
  ∀ appId component, route = .appIsLocatedOn appId →
    topo.componentOfApp appId = .ok (some component) →
    query.tags = [] ∨ ∃ tag ∈ query.tags, tag ∈ component.tags

/-- A route whose answer is put together from filtered items, once a lookup
succeeds. -/
theorem filtersTags_of_items {α : Type} {query : Query} {route : Route} (lookup : Except Error α)
    {items : EntitiesQuery → α → List EntityReference}
    (shape : ∀ entities, get schemas base topo { query with entities } route =
      (lookup >>= fun found => pure (entitiesResponse schemas entities (items entities found))).map
        .entities)
    (law : ∀ entities found, items entities found =
      (items (untagged entities) found).filter fun item => Carries entities.tags item) :
    FiltersTags schemas base topo query route := by
  intro answer plain
  have asked : get schemas base topo query route = _ := shape query.entities
  rw [shape] at plain
  rw [asked]
  cases lookup with
  | error error => cases plain
  | ok found =>
    cases plain
    have same := law query.entities found
    simp only [bind, Except.bind, pure, Except.pure, Except.map, filtered, entitiesResponse, ← same]
    rfl

theorem filtersTags_belongsTo {query : Query} {route : Route} (lookup : Except Error (Option Area))
    (shape : ∀ entities, get schemas base topo { query with entities } route =
      (lookup >>= fun area =>
        pure (entitiesResponse schemas entities (belongsToItems base entities area))).map .entities) :
    FiltersTags schemas base topo query route := by
  refine filtersTags_of_items lookup shape fun entities area => ?_
  rw [belongsToItems_eq, belongsToItems_eq]
  exact areaItems_filtered entities area.toList

/-- The host is answered whether it carries a tag or not. -/
theorem filtersTags_isLocatedOn {query : Query} {appId : String} :
    FiltersTags schemas base topo query (.appIsLocatedOn appId) ↔
      HostCarries topo query.entities (.appIsLocatedOn appId) := by
  have answers (entities : EntitiesQuery) {component : Component P}
      (located : topo.componentOfApp appId = .ok (some component)) :
      get schemas base topo { query with entities } (.appIsLocatedOn appId) =
        .ok (.entities (entitiesResponse schemas entities [componentReference base component])) := by
    simp only [Handlers.get, appIsLocatedOn, located]
    rfl
  have tags (component : Component P) :
      (componentReference base component).tags.getD [] = component.tags := getD_unlessEmpty _
  constructor
  · rintro law app component same located
    cases same
    have kept := (answers query.entities located).symm.trans (law _ (answers _ located))
    simp only [filtered, entitiesResponse, Except.ok.injEq, Payload.entities.injEq, Response.mk.injEq,
      Items.mk.injEq] at kept
    have passes := List.filter_eq_self.mp kept.1.symm _ (.head _)
    simpa [Carries, tags] using passes
  · rintro carries answer plain
    cases located : topo.componentOfApp appId with
    | error error =>
      simp only [Handlers.get, appIsLocatedOn, located] at plain
      cases plain
    | ok host =>
      cases host with
      | none =>
        simp only [Handlers.get, appIsLocatedOn, located] at plain
        cases plain
      | some component =>
        have passes : Carries query.entities.tags (componentReference base component) := by
          simpa [Carries, tags] using carries appId component rfl located
        rw [answers _ located] at plain
        cases plain
        refine (answers query.entities located).trans ?_
        simp [filtered, entitiesResponse, untagged, passes]

/-- **Tag filtering is uniform** over every listing, but for an app's host, which
is filtered exactly when it carries one of the tags. -/
theorem tags_filtered_iff (schemas : Schemas) (base : String) (topo : TopologyState P)
    (query : Query) (route : Route) :
    FiltersTags schemas base topo query route ↔ HostCarries topo query.entities route := by
  cases route with
  | appIsLocatedOn appId => exact filtersTags_isLocatedOn
  | componentList =>
    refine iff_of_true (filtersTags_of_items (.ok topo.listComponents) (fun _ => rfl) ?_) nofun
    exact componentItems_filtered
  | appList =>
    refine iff_of_true (filtersTags_of_items (.ok topo.listApps) (fun _ => rfl) ?_) nofun
    exact appItems_filtered
  | areaList =>
    refine iff_of_true (filtersTags_of_items (.ok topo.listAreas) (fun _ => rfl) ?_) nofun
    exact areaItems_filtered
  | componentHosts id =>
    refine iff_of_true (filtersTags_of_items (orEntityNotFound id (topo.getComponent id))
      (fun _ => rfl) fun entities _ => ?_) nofun
    exact appItems_filtered entities (topo.appsOfComponent id)
  | areaContains id =>
    refine iff_of_true (filtersTags_of_items (orEntityNotFound id (topo.getArea id))
      (fun _ => rfl) fun entities _ => ?_) nofun
    rw [componentItems_filtered, appItems_filtered, ← List.filter_append]
  | componentBelongsTo id =>
    exact iff_of_true (filtersTags_belongsTo (orEntityNotFound id (topo.areaOfComponent id))
      fun _ => rfl) nofun
  | appBelongsTo id =>
    exact iff_of_true (filtersTags_belongsTo (orEntityNotFound id (topo.areaOfApp id))
      fun _ => rfl) nofun
  | rootCapabilities => exact iff_of_true nofun nofun
  | componentCapabilities | appCapabilities | areaCapabilities =>
    refine iff_of_true (fun answer plain => ?_) nofun
    obtain ⟨_, _, other⟩ := map_eq_ok_iff.mp plain
    cases other
  | componentDataCategories | componentDataGroups | componentDataList | componentData
  | appDataCategories | appDataGroups | appDataList | appData =>
    refine iff_of_true (fun answer plain => ?_) nofun
    obtain ⟨_, _, behind⟩ := bind_eq_ok_iff.mp plain
    obtain ⟨_, _, other⟩ := bind_eq_ok_iff.mp behind
    cases other

end Answers

/-- An app on a component without tags. -/
def cruising : TopologyState FixedListing :=
  .after [.addComponent { id := "ecu", name := "ECU" },
    .addApp { id := "cruise", name := "Cruise control", isLocatedOn := "ecu" }]

/-- Asked for a host that is tagged `safety`, the server answers with one that is
not. -/
theorem untagged_host_not_filtered :
    Handlers.get ⟨.null, .null, .null⟩ "" cruising { entities := { tags := ["safety"] } }
        (.appIsLocatedOn "cruise") =
      .ok (.entities ⟨⟨[⟨"ecu", "ECU", none, "/components/ecu", none⟩]⟩, none⟩) ∧
    ¬ ∀ query route, FiltersTags ⟨.null, .null, .null⟩ "" cruising query route := by
  have host : cruising.componentOfApp "cruise" = .ok (some { id := "ecu", name := "ECU" }) := rfl
  refine ⟨by rfl, fun uniform => ?_⟩
  have kept := uniform { entities := { tags := ["safety"] } } (.appIsLocatedOn "cruise")
  have carries := filtersTags_isLocatedOn.mp kept "cruise" _ rfl host
  simp at carries

end OpenSovd.TagFilters
