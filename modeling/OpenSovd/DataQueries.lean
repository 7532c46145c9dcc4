import Mathlib.Data.List.TakeWhile
import OpenSovd.Addressing
import OpenSovd.BuilderProofs
import OpenSovd.Facets
import OpenSovd.Handlers
import OpenSovd.ResourceRuns
import OpenSovd.Support.FormEncoding

/-! A filtered listing from the client to the provider and back. The client
writes one pair for every group, category and tag; the server collects repeated
keys into lists, lets the groups win over the categories, and lists what
matches. Whatever the texts contain, they arrive; but the decoder takes a single
empty text for no list at all, and then that part of the filter is lost. -/
namespace OpenSovd.DataQueries
open OpenSovd.Support OpenSovd.Support.PercentEncoding OpenSovd.Support.FormEncoding
open OpenSovd.Provider OpenSovd.Responses OpenSovd.Handlers OpenSovd.DataBuilder
open OpenSovd.BuilderProofs OpenSovd.Facets OpenSovd.Addressing

/-! ### The client's side -/

/-- `schema_query`. -/
def schemaQuery (includeSchema : Bool) : List (String × String) :=
  if includeSchema then [("include-schema", "true")] else []

/-- `build_uri_query_string`. -/
def buildUriQueryString (base : String) (query : List (String × String)) : String :=
  if query.isEmpty then base else base ++ "?" ++ joinPairs query

/-- A listing of an entity's data, as the builder methods set it up. -/
structure ListDataRequest where
  path : String
  schema : Bool := false
  groups : List String := []
  categories : List DataCategory := []
  tags : List String := []

namespace ListDataRequest

/-- The query of `send`, one pair for every value. -/
def query (self : ListDataRequest) : List (String × String) :=
  self.groups.map (fun g => ("groups", Client.encode g)) ++
    self.categories.map (fun c => ("categories", Client.encode c.asStr)) ++
    self.tags.map (fun t => ("tags", Client.encode t)) ++ schemaQuery self.schema

/-- The URI of the request, below the client's base URI. -/
def uri (self : ListDataRequest) : String := buildUriQueryString self.path self.query

end ListDataRequest

/-! ### The server's side -/

/-- The query of a URI: what follows the first question mark. -/
def queryOf (uri : String) : String :=
  String.ofList (uri.toList.dropWhile (· ≠ '?')).tail

/-- The values of an optional parameter. The decoder takes a single empty one for
none. -/
def given (values : List String) : List String := if values = [""] then [] else values

/-- An optional list parameter is there once a value is given. -/
def listParam (key : String) (pairs : List (String × String)) : Option (List String) :=
  unlessEmpty (given (valuesOf key pairs))

/-- A boolean parameter: absent, or given once as `true` or `false`. -/
def boolParam (key : String) (pairs : List (String × String)) : Except Error Bool :=
  match valuesOf key pairs with
  | [] => .ok false
  | ["true"] => .ok true
  | ["false"] => .ok false
  | _ => .error .badQuery

/-- `Query<DataQuery>`; parameters it does not know are ignored. -/
def decodeDataQuery (lossy : List UInt8 → String) (query : String) : Except Error DataQuery := do
  let pairs := parsePairs lossy query
  let includeSchema ← boolParam "include-schema" pairs
  return {
    groups := listParam "groups" pairs
    categories := listParam "categories" pairs
    tags := listParam "tags" pairs
    includeSchema }

variable {P : Type} [DataProvider P]

/-- The list handlers, once the provider is found. -/
def listData (schemas : Schemas) (lossy : List UInt8 → String) (provider : P) (uri : String) :
    Except Error (Response DataList) := do
  dataList schemas provider (← decodeDataQuery lossy (queryOf uri))

/-! ### What arrives -/

theorem componentSet : ComponentSet .nonAlphanumeric :=
  ⟨by decide, ⟨by decide, by decide, by decide⟩, ⟨by decide, by decide, by decide⟩,
    ⟨by decide, by decide, by decide⟩⟩

/-- The pairs the server reads. -/
def ListDataRequest.pairs (self : ListDataRequest) : List (String × String) :=
  self.groups.map (fun g => ("groups", g)) ++
    self.categories.map (fun c => ("categories", c.asStr)) ++
    self.tags.map (fun t => ("tags", t)) ++ schemaQuery self.schema

/-- The server reads the pairs back, with the values decoded. -/
theorem parsePairs_query (lossy : List UInt8 → String) (request : ListDataRequest) :
    parsePairs lossy (joinPairs request.query) = request.pairs := by
  have listed {α : Type} (key : String) (text : α → String) (items : List α)
      (plain : Writes key key) :
      List.Forall₂ WritesPair (items.map fun item => (key, Client.encode (text item)))
        (items.map fun item => (key, text item)) := by
    rw [List.forall₂_map_left_iff, List.forall₂_map_right_iff]
    exact List.forall₂_same.mpr fun item _ => ⟨plain, writes_encode componentSet (text item)⟩
  have schema : List.Forall₂ WritesPair (schemaQuery request.schema) (schemaQuery request.schema) := by
    refine List.forall₂_same.mpr fun pair member => ?_
    unfold schemaQuery at member
    split at member
    · cases List.mem_singleton.mp member
      exact ⟨writes_plain (by simp), writes_plain (by simp)⟩
    · cases member
  refine parsePairs_joinPairs (List.rel_append (List.rel_append (List.rel_append ?_ ?_) ?_) schema)
  · exact listed "groups" id request.groups (writes_plain (by simp))
  · exact listed "categories" DataCategory.asStr request.categories (writes_plain (by simp))
  · exact listed "tags" id request.tags (writes_plain (by simp))

/-- What is collected under each key. -/
theorem valuesOf_pairs (request : ListDataRequest) :
    valuesOf "groups" request.pairs = request.groups ∧
      valuesOf "categories" request.pairs = request.categories.map DataCategory.asStr ∧
      valuesOf "tags" request.pairs = request.tags ∧
      valuesOf "include-schema" request.pairs = if request.schema then ["true"] else [] := by
  have groups (key : String) := valuesOf_listed key "groups" id request.groups
  have categories (key : String) :=
    valuesOf_listed key "categories" DataCategory.asStr request.categories
  have tags (key : String) := valuesOf_listed key "tags" id request.tags
  simp only [id_eq, List.map_id] at groups tags
  unfold ListDataRequest.pairs schemaQuery
  simp only [valuesOf_append, groups, categories, tags]
  cases request.schema <;> simp [valuesOf]

theorem unlessEmpty_getD (values : List String) : (unlessEmpty values).getD [] = values := by
  cases values <;> rfl

/-- A URI splits where its query was put. -/
theorem queryOf_buildUriQueryString {base : String} (plain : '?' ∉ base.toList)
    (query : List (String × String)) :
    queryOf (buildUriQueryString base query) = joinPairs query := by
  have before : ∀ char ∈ base.toList, (decide (char ≠ '?')) = true := by
    intro char member
    exact decide_eq_true fun same => plain (same ▸ member)
  unfold queryOf buildUriQueryString
  cases query with
  | nil =>
    have nothing := List.dropWhile_eq_nil_iff.mpr before
    rw [List.isEmpty_nil, if_pos rfl, nothing]
    rfl
  | cons pair rest =>
    have shape : (base ++ "?" ++ joinPairs (pair :: rest)).toList =
        base.toList ++ '?' :: (joinPairs (pair :: rest)).toList := by simp
    rw [List.isEmpty_cons, if_neg Bool.false_ne_true, shape, List.dropWhile_append_of_pos before]
    simp

namespace ListDataRequest

/-- The query the request stands for. -/
def asked (self : ListDataRequest) : DataQuery where
  groups := unlessEmpty self.groups
  categories := unlessEmpty (self.categories.map DataCategory.asStr)
  tags := unlessEmpty self.tags
  includeSchema := self.schema

/-- What the server takes of the request. -/
def taken (self : ListDataRequest) : ListDataRequest :=
  { self with
    groups := given self.groups
    categories := if self.categories.map DataCategory.asStr = [""] then [] else self.categories
    tags := given self.tags }

/-- The query the handler runs on. -/
def received (self : ListDataRequest) : DataQuery := self.taken.asked

/-- No list that counts is taken for none: the tags, the groups, and without
groups the categories. -/
structure Kept (request : ListDataRequest) : Prop where
  tags : request.tags ≠ [""]
  groups : request.groups ≠ [""]
  categories : request.groups = [] → request.categories.map DataCategory.asStr ≠ [""]

end ListDataRequest

theorem given_of_ne {values : List String} (kept : values ≠ [""]) : given values = values := if_neg kept

theorem given_categories (categories : List DataCategory) :
    given (categories.map DataCategory.asStr) =
      (if categories.map DataCategory.asStr = [""] then [] else categories).map DataCategory.asStr := by
  unfold given
  split <;> rfl

theorem decode_query (lossy : List UInt8 → String) (request : ListDataRequest) :
    decodeDataQuery lossy (joinPairs request.query) = .ok request.received := by
  obtain ⟨groups, categories, tags, schema⟩ := valuesOf_pairs request
  have flag : boolParam "include-schema" request.pairs = .ok request.schema := by
    unfold boolParam
    rw [schema]
    cases request.schema <;> rfl
  simp only [decodeDataQuery, listParam, parsePairs_query, flag, groups, categories, tags,
    given_categories]
  rfl

/-- A filter that is kept is the one that was asked for. -/
theorem dataFilter_received {request : ListDataRequest} (kept : request.Kept) :
    dataFilter request.received = dataFilter request.asked := by
  unfold ListDataRequest.received ListDataRequest.taken ListDataRequest.asked dataFilter
  simp only [given_of_ne kept.tags, given_of_ne kept.groups, unlessEmpty_getD]
  by_cases grouped : request.groups = []
  · rw [if_neg (kept.categories grouped)]
  · simp [grouped]

theorem dataList_received (schemas : Schemas) (provider : P) {request : ListDataRequest}
    (kept : request.Kept) :
    dataList schemas provider request.received = dataList schemas provider request.asked := by
  unfold dataList
  rw [dataFilter_received kept]
  rfl

/-! ### What is listed -/

/-- The filter as the request means it: groups before categories, and tags on top. -/
def Selects (request : ListDataRequest) (m : Metadata) : Prop :=
  (if request.groups ≠ [] then ∃ g ∈ request.groups, g ∈ m.groups
    else if request.categories ≠ [] then ∃ c ∈ request.categories, c.asStr = m.category
    else True) ∧
  (request.tags = [] ∨ ∃ t ∈ request.tags, t ∈ m.tags)

instance (request : ListDataRequest) (m : Metadata) : Decidable (Selects request m) := by
  unfold Selects
  infer_instance

/-- An item tells what was registered; an empty list is left out. -/
structure Reports (m : Metadata) (item : DataMetadata) : Prop where
  id : item.id = m.id
  name : item.name = m.name
  category : item.category.asStr = m.category
  translationId : item.translationId = m.translationId
  groups : item.groups = if m.groups = [] then none else some m.groups
  tags : item.tags = if m.tags = [] then none else some m.tags

variable {ι : Type} {T : ι → ResourceType}

theorem asStr_ofString (name : String) : (DataCategory.ofString name).asStr = name := by
  unfold DataCategory.ofString
  split_ifs <;> simp_all [DataCategory.asStr]

theorem unlessEmpty_eq (values : List String) :
    unlessEmpty values = if values = [] then none else some values := by
  cases values <;> rfl

/-- The provider's filter accepts what the request selects. -/
theorem matchesFilter_asked {request : ListDataRequest} {m : Metadata} :
    BuiltDataProvider.matchesFilter m (dataFilter request.asked) = true ↔ Selects request m := by
  unfold Selects dataFilter BuiltDataProvider.matchesFilter ListDataRequest.asked
  simp only [unlessEmpty_getD, Bool.and_eq_true]
  refine and_congr ?_ ?_
  · by_cases grouped : request.groups = []
    · by_cases categorised : request.categories = []
      · simp [grouped, categorised]
      · simp [grouped, categorised]
    · simp [grouped]
  · simp

/-- The item the handler makes of an entry. -/
def itemOf (m : Metadata) : DataMetadata where
  id := m.id
  name := m.name
  category := .ofString m.category
  translationId := m.translationId
  groups := unlessEmpty m.groups
  tags := unlessEmpty m.tags

theorem reports_itemOf (m : Metadata) : Reports m (itemOf m) where
  id := rfl
  name := rfl
  category := asStr_ofString m.category
  translationId := rfl
  groups := unlessEmpty_eq m.groups
  tags := unlessEmpty_eq m.tags

theorem dataList_eq (schemas : Schemas) (p : BuiltDataProvider T) (query : DataQuery) :
    dataList schemas p query = .ok ⟨⟨(listed p (dataFilter query)).map itemOf⟩,
      schemaIf query.includeSchema schemas.dataList⟩ := by
  have all : DataProvider.list p (dataFilter query) = .ok (listed p (dataFilter query)) :=
    list_eq_listed p _
  unfold dataList
  rw [all]
  rfl

theorem metadataOf_ids_nodup (p : BuiltDataProvider T) : ((metadataOf p).map (·.id)).Nodup := by
  have keys : (metadataOf p).map (·.id) = p.resources.keys := by
    rw [metadataOf, OrderedMap.values, OrderedMap.keys, List.map_map, List.map_map]
    refine List.map_congr_left fun slot member => ?_
    exact p.keyed (OrderedMap.get_eq_some_iff.mpr member)
  rw [keys]
  exact p.resources.nodup

theorem metadataOf_build {calls : List (BuilderCall T)} {p : BuiltDataProvider T}
    (ok : (DataProviderBuilder.after calls).build = .ok p) :
    metadataOf p = (segments calls).map Segment.metadata := by
  rw [metadataOf, OrderedMap.values, entries_of_build ok, List.map_map, List.map_map]
  rfl

/-- What a list request is answered with: the selected resources in the order
of the registrations, each once and as it was registered. -/
structure ListsSelected (schemas : Schemas) (lossy : List UInt8 → String)
    (p : BuiltDataProvider T) (request : ListDataRequest) (items : List DataMetadata) : Prop where
  answer : listData schemas lossy p request.uri =
    .ok ⟨⟨items⟩, schemaIf request.schema schemas.dataList⟩
  selected : List.Forall₂ Reports ((metadataOf p).filter (Selects request)) items
  once : (items.map DataMetadata.id).Nodup
  registered : ∀ calls, (DataProviderBuilder.after calls).build = .ok p →
    metadataOf p = (segments calls).map Segment.metadata

/-- What a list request is answered with, whatever its filter was taken for. -/
theorem listData_taken (schemas : Schemas) (lossy : List UInt8 → String) (p : BuiltDataProvider T)
    {request : ListDataRequest} (plain : '?' ∉ request.path.toList) :
    listData schemas lossy p request.uri =
      .ok ⟨⟨((metadataOf p).filter fun m => Selects request.taken m).map itemOf⟩,
        schemaIf request.schema schemas.dataList⟩ := by
  have answer : listData schemas lossy p request.uri = dataList schemas p request.received := by
    unfold listData ListDataRequest.uri
    rw [queryOf_buildUriQueryString plain, decode_query]
    rfl
  have filtered : listed p (dataFilter request.received) =
      (metadataOf p).filter fun m => Selects request.taken m := by
    refine List.filter_congr fun m _ => ?_
    rw [Bool.eq_iff_iff, ListDataRequest.received, matchesFilter_asked, decide_eq_true_eq]
  rw [answer, dataList_eq, filtered]
  rfl

theorem ids_of_reports {ms : List Metadata} {items : List DataMetadata}
    (reports : List.Forall₂ Reports ms items) : items.map (·.id) = ms.map (·.id) := by
  induction reports with
  | nil => rfl
  | cons first rest ih => rw [List.map_cons, List.map_cons, first.id, ih]

/-- Listings of one provider that show the same ids select alike. -/
theorem select_alike {items : List Metadata} (once : (items.map (·.id)).Nodup)
    {left right : Metadata → Bool}
    (same : (items.filter left).map (·.id) = (items.filter right).map (·.id)) :
    ∀ m ∈ items, left m = true → right m = true := by
  intro m member chosen
  have shown : m.id ∈ (items.filter right).map (·.id) :=
    same ▸ List.mem_map_of_mem (List.mem_filter.mpr ⟨member, chosen⟩)
  obtain ⟨other, listed, id⟩ := List.mem_map.mp shown
  obtain ⟨held, accepted⟩ := List.mem_filter.mp listed
  rwa [List.inj_on_of_nodup_map once member held id.symm]

/-- A listing shows how the resources are selected. -/
theorem alike_of_lists {schemas : Schemas} {lossy : List UInt8 → String}
    {p : BuiltDataProvider T} {request : ListDataRequest} (plain : '?' ∉ request.path.toList)
    {items : List DataMetadata} (lists : ListsSelected schemas lossy p request items) :
    ∀ m ∈ metadataOf p, (Selects request.taken m ↔ Selects request m) := by
  intro m member
  have same := (listData_taken schemas lossy p plain).symm.trans lists.answer
  simp only [Except.ok.injEq, Response.mk.injEq, Items.mk.injEq, and_true] at same
  have shown : ((metadataOf p).filter fun m => Selects request.taken m).map (·.id) =
      ((metadataOf p).filter fun m => Selects request m).map (·.id) := by
    have ids := congrArg (List.map DataMetadata.id) same
    rw [List.map_map] at ids
    exact ids.trans (ids_of_reports lists.selected)
  have once := metadataOf_ids_nodup p
  constructor
  · intro taken
    simpa using select_alike once shown m member (by simpa using taken)
  · intro selected
    simpa using select_alike once shown.symm m member (by simpa using selected)

theorem lists_of_alike (schemas : Schemas) (lossy : List UInt8 → String)
    {p : BuiltDataProvider T} {request : ListDataRequest} (plain : '?' ∉ request.path.toList)
    (alike : ∀ m ∈ metadataOf p, (Selects request.taken m ↔ Selects request m)) :
    ∃ items, ListsSelected schemas lossy p request items := by
  have answer := listData_taken schemas lossy p plain
  have filtered : ((metadataOf p).filter fun m => Selects request.taken m) =
      (metadataOf p).filter fun m => Selects request m := by
    refine List.filter_congr fun m member => ?_
    rw [decide_eq_decide]
    exact alike m member
  have once := (metadataOf_ids_nodup p).sublist
    ((List.filter_sublist (p := fun m => decide (Selects request m))).map (·.id))
  rw [filtered] at answer
  refine ⟨_, answer, ?_, by rwa [List.map_map], fun _ => metadataOf_build⟩
  rw [List.forall₂_map_right_iff]
  exact List.forall₂_same.mpr fun m _ => reports_itemOf m

/-- `list_data` on a component and on an app. -/
def componentListData (id : String) : ListDataRequest := { path := (Client.component id).listData }

def appListData (id : String) : ListDataRequest := { path := (Client.app id).listData }

theorem listData_path_plain (id : String) :
    '?' ∉ (Client.component id).listData.toList ∧ '?' ∉ (Client.app id).listData.toList := by
  have segment := query_not_mem_segment (.inl rfl) id
  constructor
  · simpa [Client.component, Client.Component.listData] using segment
  · simpa [Client.app, Client.App.listData] using segment

/-! ### When a listing arrives -/

/-- A resource in the first category asked for, and in all groups that are left, is
in the scope that is left. -/
theorem scope_of_first {request : ListDataRequest} {m : Metadata}
    (category : m.category = (request.categories.headD .currentData).asStr)
    (groups : ∀ g ∈ given request.groups, g ∈ m.groups) :
    if request.taken.groups ≠ [] then ∃ g ∈ request.taken.groups, g ∈ m.groups
      else if request.taken.categories ≠ [] then ∃ c ∈ request.taken.categories, c.asStr = m.category
      else True := by
  by_cases grouped : request.taken.groups = []
  · by_cases categorised : request.taken.categories = []
    · simp [grouped, categorised]
    · have whole : request.taken.categories = request.categories := by
        unfold ListDataRequest.taken at categorised ⊢
        exact if_neg fun lone => categorised (if_pos lone)
      rw [if_neg (not_not.mpr grouped), if_pos categorised, whole, category]
      rw [whole] at categorised
      cases shape : request.categories with
      | nil => exact absurd shape categorised
      | cons first rest => exact ⟨first, .head _, rfl⟩
  · obtain ⟨g, rest, shape⟩ := List.exists_cons_of_ne_nil grouped
    have member : g ∈ request.taken.groups := shape ▸ .head rest
    rw [if_pos grouped]
    exact ⟨g, member, groups g member⟩

/-- Where a part of the filter is lost, some resource is selected for that. -/
theorem selected_when_lost {request : ListDataRequest} (lost : ¬ request.Kept) :
    ∃ (category : DataCategory) (groups tags : List String), ∀ m : Metadata,
      m.category = category.asStr → m.groups = groups → m.tags = tags →
        Selects request.taken m ∧ ¬ Selects request m := by
  by_cases tagged : request.tags = [""]
  · refine ⟨request.categories.headD .currentData, given request.groups, [],
      fun m category groups tags => ⟨⟨scope_of_first category fun g member => groups ▸ member, ?_⟩, ?_⟩⟩
    · exact Or.inl (by simp [ListDataRequest.taken, tagged, given])
    · rintro ⟨_, selected⟩
      simp [tagged, tags] at selected
  have tags_taken {m : Metadata} (tags : m.tags = request.tags) :
      request.taken.tags = [] ∨ ∃ t ∈ request.taken.tags, t ∈ m.tags := by
    rw [tags, show request.taken.tags = request.tags from given_of_ne tagged]
    cases request.tags with
    | nil => exact Or.inl rfl
    | cons t rest => exact Or.inr ⟨t, .head _, .head _⟩
  by_cases grouped : request.groups = [""]
  · refine ⟨request.categories.headD .currentData, [], request.tags,
      fun m category groups tags => ⟨⟨scope_of_first category ?_, tags_taken tags⟩, ?_⟩⟩
    · simp [grouped, given]
    · rintro ⟨selected, _⟩
      simp [grouped, groups] at selected
  · have lone : request.groups = [] ∧ request.categories.map DataCategory.asStr = [""] := by
      by_contra kept
      exact lost ⟨tagged, grouped, fun none categorised => kept ⟨none, categorised⟩⟩
    obtain ⟨none, categorised⟩ := lone
    refine ⟨.currentData, [], request.tags,
      fun m category groups tags => ⟨⟨?_, tags_taken tags⟩, ?_⟩⟩
    · simp [ListDataRequest.taken, none, categorised, given]
    · rintro ⟨selected, _⟩
      obtain ⟨c, shape, empty⟩ := List.map_eq_singleton_iff.mp categorised
      have current : m.category = "currentData" := category
      simp [none, shape, empty, current] at selected

/-- A listing arrives when it is answered with the selected resources. -/
def Arrives (schemas : Schemas) (lossy : List UInt8 → String) (request : ListDataRequest)
    (p : BuiltDataProvider T) : Prop :=
  ∃ items, ListsSelected schemas lossy p request items

/-- When a listing arrives: from one provider, and from all that can be built. -/
structure ArrivesWhenKept (schemas : Schemas) (lossy : List UInt8 → String)
    (request : ListDataRequest) : Prop where
  one : ∀ {ι : Type} {T : ι → ResourceType} (p : BuiltDataProvider T),
    Arrives schemas lossy request p ↔
      ∀ m ∈ metadataOf p, (Selects request.taken m ↔ Selects request m)
  all : (∀ {ι : Type} {T : ι → ResourceType} (calls : List (BuilderCall T))
      (p : BuiltDataProvider T), (DataProviderBuilder.after calls).build = .ok p →
        Arrives schemas lossy request p) ↔ request.Kept

/-- A filter that is kept selects what was asked for. -/
theorem selects_taken {request : ListDataRequest} (kept : request.Kept) (m : Metadata) :
    Selects request.taken m ↔ Selects request m := by
  rw [← matchesFilter_asked, ← matchesFilter_asked, ← ListDataRequest.received,
    dataFilter_received kept]

/-- A provider of one resource. -/
theorem builds_one (category : DataCategory) (groups tags : List String) :
    ∃ (calls : List (BuilderCall fun _ : Unit => ResourceRuns.switch)) (p : BuiltDataProvider _)
      (m : Metadata), (DataProviderBuilder.after calls).build = .ok p ∧ m ∈ metadataOf p ∧
        m.category = category.asStr ∧ m.groups = groups ∧ m.tags = tags := by
  let calls : List (BuilderCall fun _ : Unit => ResourceRuns.switch) :=
    [.data "lamp" "Lamp" category () false, .groups groups, .tags tags]
  let lamp : Segment fun _ : Unit => ResourceRuns.switch :=
    ⟨⟨.readWrite, "lamp", "Lamp", category, (), false⟩, [.groups groups, .tags tags]⟩
  have distinct : (registeredIds calls).Nodup := List.nodup_singleton "lamp"
  obtain ⟨p, ok⟩ := build_ok_iff.mpr distinct
  refine ⟨calls, p, lamp.metadata, ok, ?_, rfl, rfl, rfl⟩
  rw [metadataOf_build ok]
  exact .head _

theorem arrives_when_kept (schemas : Schemas) (lossy : List UInt8 → String)
    {request : ListDataRequest} (plain : '?' ∉ request.path.toList) :
    ArrivesWhenKept schemas lossy request where
  one p := ⟨fun ⟨_, lists⟩ => alike_of_lists plain lists, lists_of_alike schemas lossy plain⟩
  all := by
    constructor
    · intro arrives
      by_contra lost
      obtain ⟨category, groups, tags, selected⟩ := selected_when_lost lost
      obtain ⟨calls, p, m, ok, member, held⟩ := builds_one category groups tags
      obtain ⟨taken, refused⟩ := selected m held.1 held.2.1 held.2.2
      obtain ⟨_, lists⟩ := arrives calls p ok
      exact refused ((alike_of_lists plain lists m member).mp taken)
    · intro kept _ _ _ p _
      exact lists_of_alike schemas lossy plain fun m _ => selects_taken kept m

/-- **A filtered listing arrives end to end** exactly when no list that counts is one
empty text; otherwise it still does from providers whose resources are selected
alike without that list. -/
theorem filtered_listing_arrives_iff (schemas : Schemas) (lossy : List UInt8 → String)
    (id : String) (gs : List String) (cs : List DataCategory) (ts : List String)
    (includeSchema : Bool) :
    ArrivesWhenKept schemas lossy { componentListData id with
      schema := includeSchema, groups := gs, categories := cs, tags := ts } ∧
    ArrivesWhenKept schemas lossy { appListData id with
      schema := includeSchema, groups := gs, categories := cs, tags := ts } :=
  ⟨arrives_when_kept schemas lossy (listData_path_plain id).1,
    arrives_when_kept schemas lossy (listData_path_plain id).2⟩

/-- A lamp and a door without tags. -/
def untagged : BuiltDataProvider fun _ : Unit => ResourceRuns.switch :=
  (DataProviderBuilder.after ResourceRuns.switches).build.toOption.getD .empty

/-- Asked for what has the empty tag, the server lists both. -/
theorem empty_tag_is_no_filter :
    (listData ⟨.null, .null, .null⟩ (fun _ => "") untagged
        { componentListData "ecu" with tags := [""] }.uri).map (fun answer =>
      answer.data.items.map DataMetadata.id) = .ok ["lamp", "door"] ∧
    ¬ Arrives ⟨.null, .null, .null⟩ (fun _ => "") { componentListData "ecu" with tags := [""] }
        untagged := by
  refine ⟨by rfl, fun ⟨_, lists⟩ => ?_⟩
  obtain ⟨m, member, none⟩ : ∃ m ∈ metadataOf untagged, m.tags = [] := ⟨_, .head _, rfl⟩
  have alike := alike_of_lists (listData_path_plain "ecu").1 lists m member
  have selected := (alike.mp ⟨trivial, .inl rfl⟩).2
  simp [none] at selected

end OpenSovd.DataQueries
