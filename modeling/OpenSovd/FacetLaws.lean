import OpenSovd.Facets
import OpenSovd.ResourceRuns

/-! Laws between the answers of the facet queries: the category filter against
the whole group listing, the answers of one set of resources registered in two
orders, and a built provider's own queries against those of the trait. A facet
keeps the first resource of every key; a law fails where it reads more off that
resource than the key. -/
namespace OpenSovd.FacetLaws
open OpenSovd.Support OpenSovd.Provider OpenSovd.DataBuilder OpenSovd.Facets
open OpenSovd.BuilderProofs DataProviderBuilder

/-- A provider whose facets are left to the trait. -/
structure ByDefault (P : Type) where
  provider : P

instance {P : Type} [DataProvider P] : DataProvider (ByDefault P) where
  list self := DataProvider.list self.provider
  read self := DataProvider.read self.provider
  write self dataId value :=
    let (changed, answer) := DataProvider.write self.provider dataId value
    (⟨changed⟩, answer)

variable {ι : Type} {T : ι → ResourceType}

/-! ### A built provider's own queries -/

theorem list_default (p : BuiltDataProvider T) : p.list {} = .ok (metadataOf p) := by
  rw [list_eq_listed, listed_all]

theorem categories_default (p : BuiltDataProvider T) :
    p.categories = .ok (categoriesOf (metadataOf p)) := by
  simp only [BuiltDataProvider.categories, categoriesOf, metadataOf, firstOfEach_map, List.map_map]
  rfl

theorem groups_default (p : BuiltDataProvider T) (within : Option String) :
    p.groups within = .ok (groupsOf (metadataOf p) within) := by
  simp only [BuiltDataProvider.groups, groupsOf, metadataOf, List.filter_map, List.flatMap_map]
  rfl

theorem tags_default (p : BuiltDataProvider T) : p.tags = .ok (tagsOf (metadataOf p)) := by
  simp only [BuiltDataProvider.tags, tagsOf, metadataOf, List.flatMap_map]

/-- **The facet queries of a built provider are the trait's**, computed from its
listing. -/
theorem own_facets_are_default (p : BuiltDataProvider T) :
    DataProvider.categories p = DataProvider.categories (ByDefault.mk p) ∧
      (∀ within, DataProvider.groups p within = DataProvider.groups (ByDefault.mk p) within) ∧
      DataProvider.tags p = DataProvider.tags (ByDefault.mk p) := by
  have listing : DataProvider.list p {} = .ok (metadataOf p) := list_default p
  refine ⟨?_, fun within => ?_, ?_⟩
  · calc DataProvider.categories p = .ok (categoriesOf (metadataOf p)) := categories_default p
      _ = (DataProvider.list p {}).map categoriesOf := by rw [listing]; rfl
  · calc DataProvider.groups p within = .ok (groupsOf (metadataOf p) within) := groups_default p within
      _ = (DataProvider.list p {}).map (groupsOf · within) := by rw [listing]; rfl
  · calc DataProvider.tags p = .ok (tagsOf (metadataOf p)) := tags_default p
      _ = (DataProvider.list p {}).map tagsOf := by rw [listing]; rfl

/-! ### The category filter on groups -/

/-- The answer holds an entry for the group with this category. -/
def Reports (answer : Except DataError (List GroupInfo)) (group category : String) : Prop :=
  ∃ infos, answer = .ok infos ∧ ∃ info ∈ infos, info.id = group ∧ info.category = category

section Filter
variable {P : Type} [DataProvider P]

/-- The provider lists the resource. -/
def Lists (p : P) (m : Metadata) : Prop := ∃ all, DataProvider.list p {} = .ok all ∧ m ∈ all

/-- The groups of a category are the entries of the whole listing that have it,
and the whole listing has one for every group of a resource of the category. -/
structure FiltersGroups (p : P) (category : String) : Prop where
  filtered : ∀ g c, Reports (DataProvider.groups p (some category)) g c ↔
    Reports (DataProvider.groups p none) g c ∧ c = category
  complete : ∀ g, Reports (DataProvider.groups p none) g category ↔
    ∃ m, Lists p m ∧ m.category = category ∧ g ∈ m.groups

/-- Among the resources of any group of the category, the first one listed has
that category. -/
def LeadsItsGroups (p : P) (category : String) : Prop :=
  ∀ all, DataProvider.list p {} = .ok all → ∀ m ∈ all, m.category = category → ∀ g ∈ m.groups,
    ∃ first, (all.find? fun other => g ∈ other.groups) = some first ∧ first.category = category

/-- No group has resources of two categories. -/
def OneCategoryEach (p : P) : Prop :=
  ∀ m m' g, Lists p m → Lists p m' → g ∈ m.groups → g ∈ m'.groups → m.category = m'.category

end Filter

theorem find_own_pair (groups : List String) (g c : String) :
    ((groups.map fun own => (own, c)).find? fun pair => pair.1 = g) =
      if g ∈ groups then some (g, c) else none := by
  induction groups with
  | nil => rfl
  | cons own rest ih =>
    rw [List.map_cons]
    by_cases same : own = g
    · rw [List.find?_cons_of_pos (by simpa using same)]
      simp [same]
    · rw [List.find?_cons_of_neg (by simpa using same), ih]
      simp [Ne.symm same]

/-- The pair kept for a group carries the category of its first resource. -/
theorem find_pair {all : List Metadata} {g c : String} :
    ((all.flatMap fun m => m.groups.map fun own => (own, m.category)).find? fun pair => pair.1 = g) =
        some (g, c) ↔
      ∃ first, (all.find? fun other => g ∈ other.groups) = some first ∧ first.category = c := by
  induction all with
  | nil => simp
  | cons head rest ih =>
    rw [List.flatMap_cons, List.find?_append, find_own_pair]
    by_cases member : g ∈ head.groups
    · rw [List.find?_cons_of_pos (by simpa using member), if_pos member]
      simp
    · rw [List.find?_cons_of_neg (by simpa using member), if_neg member, Option.none_or, ih]

/-- What a listing's groups report. -/
theorem mem_groupsOf {all : List Metadata} {within : Option String} {g c : String} :
    (∃ info ∈ groupsOf all within, info.id = g ∧ info.category = c) ↔
      ∃ first, ((all.filter fun m => within.all (m.category = ·)).find? fun other =>
        g ∈ other.groups) = some first ∧ first.category = c := by
  have kept (pair : String × String) (pairs : List (String × String)) :
      pair ∈ firstOfEach Prod.fst [] pairs ↔ (pairs.find? fun other => other.1 = pair.1) = some pair := by
    rw [mem_firstOfEach]
    simp
  rw [← find_pair, ← kept (g, c)]
  unfold groupsOf
  constructor
  · rintro ⟨info, member, rfl, rfl⟩
    obtain ⟨pair, held, rfl⟩ := List.mem_map.mp member
    exact held
  · intro held
    exact ⟨_, List.mem_map_of_mem held, rfl, rfl⟩

/-- Within a category nothing but membership counts. -/
theorem mem_groupsOf_some {all : List Metadata} {category g c : String} :
    (∃ info ∈ groupsOf all (some category), info.id = g ∧ info.category = c) ↔
      c = category ∧ ∃ m ∈ all, m.category = category ∧ g ∈ m.groups := by
  rw [mem_groupsOf]
  constructor
  · rintro ⟨first, found, rfl⟩
    have carried : g ∈ first.groups := by simpa using List.find?_some found
    have member := List.mem_filter.mp (List.mem_of_find?_eq_some found)
    have same : first.category = category := by simpa using member.2
    exact ⟨same, first, member.1, same, carried⟩
  · rintro ⟨rfl, m, member, same, carried⟩
    have among : m ∈ all.filter fun m => (some c).all (m.category = ·) := by
      simpa using ⟨member, same⟩
    have found : ((all.filter fun m => (some c).all (m.category = ·)).find? fun other =>
        g ∈ other.groups).isSome := by
      rw [List.find?_isSome]
      exact ⟨m, among, by simpa using carried⟩
    obtain ⟨first, found⟩ := Option.isSome_iff_exists.mp found
    have kept := List.mem_filter.mp (List.mem_of_find?_eq_some found)
    exact ⟨first, found, by simpa using kept.2⟩

section Filter
variable {P : Type} [DataProvider P] {p : P}

/-- The provider's groups are computed from its listing. -/
def GroupsListed (p : P) : Prop :=
  ∀ within, DataProvider.groups p within = (DataProvider.list p {}).map (groupsOf · within)

theorem reports_iff (listed : GroupsListed p) {within : Option String} {g c : String} :
    Reports (DataProvider.groups p within) g c ↔
      ∃ all, DataProvider.list p {} = .ok all ∧
        ∃ info ∈ groupsOf all within, info.id = g ∧ info.category = c := by
  unfold Reports
  rw [listed]
  cases DataProvider.list p {} with
  | error error => simp [Except.map]
  | ok all => simp [Except.map]

/-- A category is filtered right exactly when it leads its groups. -/
theorem filters_groups_iff (listed : GroupsListed p) (category : String) :
    FiltersGroups p category ↔ LeadsItsGroups p category := by
  cases listing : DataProvider.list p {} with
  | error error =>
    refine iff_of_true ⟨fun g c => ?_, fun g => ?_⟩ fun all held => ?_
    · simp [reports_iff listed, listing]
    · simp [reports_iff listed, Lists, listing]
    · rw [listing] at held
      cases held
  | ok all =>
    have whole (g c : String) : Reports (DataProvider.groups p none) g c ↔
        ∃ first, (all.find? fun other => g ∈ other.groups) = some first ∧ first.category = c := by
      simp [reports_iff listed, listing, mem_groupsOf]
    have part (g c : String) : Reports (DataProvider.groups p (some category)) g c ↔
        c = category ∧ ∃ m ∈ all, m.category = category ∧ g ∈ m.groups := by
      simp only [reports_iff listed, listing, Except.ok.injEq, exists_eq_left', mem_groupsOf_some]
    have held (m : Metadata) : Lists p m ↔ m ∈ all := by simp [Lists, listing]
    constructor
    · intro law all' same m member within g carried
      have same : all = all' := by simpa [listing] using same
      subst same
      exact (whole g category).mp ((law.complete g).mpr ⟨m, (held m).mpr member, within, carried⟩)
    · intro leads
      have leads := leads all listing
      have complete (g : String) : Reports (DataProvider.groups p none) g category ↔
          ∃ m ∈ all, m.category = category ∧ g ∈ m.groups := by
        rw [whole]
        constructor
        · rintro ⟨first, found, same⟩
          exact ⟨first, List.mem_of_find?_eq_some found, same, by simpa using List.find?_some found⟩
        · rintro ⟨m, member, within, carried⟩
          exact leads m member within g carried
      refine ⟨fun g c => ?_, fun g => ?_⟩
      · rw [part, ← complete]
        constructor
        · rintro ⟨rfl, reported⟩
          exact ⟨reported, rfl⟩
        · rintro ⟨reported, rfl⟩
          exact ⟨rfl, reported⟩
      · rw [complete]
        simp only [held]

/-- All categories lead their groups exactly when no group is shared. -/
theorem leads_all_iff : (∀ category, LeadsItsGroups p category) ↔ OneCategoryEach p := by
  constructor
  · rintro leads m m' g ⟨all, listing, member⟩ ⟨all', listing', member'⟩ carried carried'
    have same : all = all' := by simpa [listing] using listing'
    subst same
    obtain ⟨first, found, here⟩ := leads _ all listing m member rfl g carried
    obtain ⟨first', found', there⟩ := leads _ all listing m' member' rfl g carried'
    rw [found] at found'
    cases found'
    exact here.symm.trans there
  · intro one category all listing m member within g carried
    have found : (all.find? fun other => g ∈ other.groups).isSome := by
      rw [List.find?_isSome]
      exact ⟨m, member, by simpa using carried⟩
    obtain ⟨first, found⟩ := Option.isSome_iff_exists.mp found
    refine ⟨first, found, ?_⟩
    have first_carries : g ∈ first.groups := by simpa using List.find?_some found
    rw [← within]
    exact one first m g ⟨all, listing, List.mem_of_find?_eq_some found⟩ ⟨all, listing, member⟩
      first_carries carried

end Filter

theorem built_groupsListed (p : BuiltDataProvider T) : GroupsListed p := by
  intro within
  have listing : DataProvider.list p {} = .ok (metadataOf p) := list_default p
  rw [listing]
  exact groups_default p within

/-- **Filtering groups by category is a filter** exactly at the categories that
lead their groups, and at every category exactly when no group has resources of
two. This holds of built providers and of the trait's default. -/
theorem groups_filter_iff {P : Type} [DataProvider P] :
    (∀ p : BuiltDataProvider T,
      (∀ category, FiltersGroups p category ↔ LeadsItsGroups p category) ∧
      ((∀ category, FiltersGroups p category) ↔ OneCategoryEach p)) ∧
    ∀ p : ByDefault P,
      (∀ category, FiltersGroups p category ↔ LeadsItsGroups p category) ∧
      ((∀ category, FiltersGroups p category) ↔ OneCategoryEach p) := by
  have law {Q : Type} [DataProvider Q] {q : Q} (listed : GroupsListed q) :
      (∀ category, FiltersGroups q category ↔ LeadsItsGroups q category) ∧
        ((∀ category, FiltersGroups q category) ↔ OneCategoryEach q) := by
    have each := filters_groups_iff listed
    exact ⟨each, (forall_congr' each).trans leads_all_iff⟩
  exact ⟨fun p => law (built_groupsListed p), fun p => law fun within => rfl⟩

/-- A measurement and a part number of one group. -/
def engine : BuiltDataProvider fun _ : Unit => ResourceRuns.switch :=
  ((((new.readData "engine.running" "Running" .currentData () true).groups ["engine"]).readData
    "engine.fitted" "Fitted" .identData () true).groups ["engine"]).build.toOption.getD .empty

/-- The group has two categories, one in either answer. -/
theorem engine_groups_not_filtered :
    DataProvider.groups engine none = .ok [⟨"engine", "currentData", none, none, none⟩] ∧
      DataProvider.groups engine (some "identData") =
        .ok [⟨"engine", "identData", none, none, none⟩] ∧
      ¬ FiltersGroups engine "identData" ∧ ¬ FiltersGroups (ByDefault.mk engine) "identData" := by
  have refuted {Q : Type} [DataProvider Q] {q : Q}
      (whole : DataProvider.groups q none = .ok [⟨"engine", "currentData", none, none, none⟩])
      (part : DataProvider.groups q (some "identData") =
        .ok [⟨"engine", "identData", none, none, none⟩]) : ¬ FiltersGroups q "identData" := by
    intro law
    have within : Reports (DataProvider.groups q (some "identData")) "engine" "identData" :=
      ⟨_, part, _, .head _, rfl, rfl⟩
    obtain ⟨infos, listed, info, member, _, same⟩ := ((law.filtered _ _).mp within).1
    rw [whole] at listed
    cases listed
    cases List.mem_singleton.mp member
    exact absurd same (by decide)
  exact ⟨rfl, rfl, refuted rfl rfl, refuted rfl rfl⟩

/-! ### The order of registration -/

/-- Both answers hold the same records. -/
def SameRecords {α : Type} (left right : Except DataError (List α)) : Prop :=
  ∃ xs ys, left = .ok xs ∧ right = .ok ys ∧ ∀ x, x ∈ xs ↔ x ∈ ys

/-- The providers built from the two lists of resources list the same tags. -/
def SameTags (resources permuted : List (ResourceEntry T)) : Prop :=
  ∃ p q, build ⟨resources⟩ = .ok p ∧ build ⟨permuted⟩ = .ok q ∧ SameRecords p.tags q.tags

/-- They list the same tags and the same categories, with their translations. -/
def SameListings (resources permuted : List (ResourceEntry T)) : Prop :=
  ∃ p q, build ⟨resources⟩ = .ok p ∧ build ⟨permuted⟩ = .ok q ∧
    SameRecords p.categories q.categories ∧ SameRecords p.tags q.tags

/-- The translation of the first resource of a category. -/
def firstTranslation (resources : List (ResourceEntry T)) (category : String) :
    Option (Option String) :=
  (resources.find? fun r => r.metadata.category = category).map (·.metadata.translationId)

/-- The resources of a category have one translation. -/
def OneTranslationEach (resources : List (ResourceEntry T)) : Prop :=
  ∀ r ∈ resources, ∀ r' ∈ resources, r.metadata.category = r'.metadata.category →
    r.metadata.translationId = r'.metadata.translationId

theorem build_of_distinct {resources : List (ResourceEntry T)}
    (distinct : (resources.map (·.metadata.id)).Nodup) :
    ∃ p, build ⟨resources⟩ = .ok p ∧ p.resources.values = resources := by
  rcases insertAll_ok_or_error .empty resources with ⟨p, built⟩ | ⟨id, failed⟩
  · refine ⟨p, built, ?_⟩
    have entries := entries_of_insertAll built
    simp [OrderedMap.values, entries, BuiltDataProvider.empty, OrderedMap.empty, Function.comp_def]
  · obtain ⟨before, after, shape, member, _⟩ := insertAll_eq_error_iff.mp failed
    rw [shape] at distinct
    simp only [BuiltDataProvider.empty, OrderedMap.empty, OrderedMap.keys, List.map_nil,
      List.nil_append] at member
    exact absurd (.head _) (List.disjoint_of_nodup_append distinct member)

theorem mem_categories {p : BuiltDataProvider T} {info : CategoryInfo} :
    (∃ infos, p.categories = .ok infos ∧ info ∈ infos) ↔
      firstTranslation p.resources.values info.category = some info.translationId := by
  simp only [BuiltDataProvider.categories, Except.ok.injEq, exists_eq_left', List.mem_map,
    mem_firstOfEach, List.not_mem_nil, not_false_eq_true, true_and, firstTranslation,
    Option.map_eq_some_iff]
  constructor
  · rintro ⟨r, found, rfl⟩
    exact ⟨r, found, rfl⟩
  · rintro ⟨r, found, same⟩
    have category : r.metadata.category = info.category := by simpa using List.find?_some found
    refine ⟨r, by rw [category]; exact found, ?_⟩
    cases info
    simp_all

theorem mem_tags {p : BuiltDataProvider T} {info : TagInfo} :
    (∃ infos, p.tags = .ok infos ∧ info ∈ infos) ↔
      info = ⟨info.id, none, none⟩ ∧ ∃ r ∈ p.resources.values, info.id ∈ r.metadata.tags := by
  have kept (tag : String) (tags : List String) : tag ∈ firstOfEach id [] tags ↔ tag ∈ tags := by
    have keys : tag ∈ (firstOfEach id [] tags).map id ↔ tag ∉ [] ∧ ∃ item ∈ tags, id item = tag :=
      mem_keys_firstOfEach
    simpa using keys
  simp only [BuiltDataProvider.tags, Except.ok.injEq, exists_eq_left', List.mem_map, kept,
    List.mem_flatMap]
  constructor
  · rintro ⟨tag, held, rfl⟩
    exact ⟨rfl, held⟩
  · rintro ⟨shape, held⟩
    exact ⟨info.id, held, shape.symm⟩

theorem sameRecords_iff {α : Type} {left right : Except DataError (List α)}
    (here : ∃ xs, left = .ok xs) (there : ∃ ys, right = .ok ys) :
    SameRecords left right ↔
      ∀ x, (∃ xs, left = .ok xs ∧ x ∈ xs) ↔ ∃ ys, right = .ok ys ∧ x ∈ ys := by
  obtain ⟨xs, rfl⟩ := here
  obtain ⟨ys, rfl⟩ := there
  simp [SameRecords]

theorem same_categories_iff {p q : BuiltDataProvider T} :
    SameRecords p.categories q.categories ↔ ∀ category,
      firstTranslation p.resources.values category = firstTranslation q.resources.values category := by
  have answers (r : BuiltDataProvider T) : ∃ infos, r.categories = .ok infos := ⟨_, rfl⟩
  rw [sameRecords_iff (answers p) (answers q)]
  simp only [mem_categories]
  constructor
  · intro same category
    refine Option.ext fun translation => ?_
    exact same ⟨category, translation⟩
  · intro same info
    rw [same]

theorem same_tags_of_perm {p q : BuiltDataProvider T}
    (perm : p.resources.values.Perm q.resources.values) : SameRecords p.tags q.tags := by
  have answers (r : BuiltDataProvider T) : ∃ infos, r.tags = .ok infos := ⟨_, rfl⟩
  rw [sameRecords_iff (answers p) (answers q)]
  simp only [mem_tags, perm.mem_iff, implies_true]

theorem distinct_of_perm {resources permuted : List (ResourceEntry T)}
    (distinct : (resources.map (·.metadata.id)).Nodup) (perm : resources.Perm permuted) :
    (permuted.map (·.metadata.id)).Nodup := (perm.map _).nodup_iff.mp distinct

theorem same_tags {resources permuted : List (ResourceEntry T)}
    (distinct : (resources.map (·.metadata.id)).Nodup) (perm : resources.Perm permuted) :
    SameTags resources permuted := by
  obtain ⟨p, built, here⟩ := build_of_distinct distinct
  obtain ⟨q, rebuilt, there⟩ := build_of_distinct (distinct_of_perm distinct perm)
  refine ⟨p, q, built, rebuilt, same_tags_of_perm ?_⟩
  rwa [here, there]

/-- Two orders are listed alike exactly when every category starts with the same
translation in both. -/
theorem same_listings_iff {resources permuted : List (ResourceEntry T)}
    (distinct : (resources.map (·.metadata.id)).Nodup) (perm : resources.Perm permuted) :
    SameListings resources permuted ↔
      ∀ category, firstTranslation resources category = firstTranslation permuted category := by
  obtain ⟨p, built, here⟩ := build_of_distinct distinct
  obtain ⟨q, rebuilt, there⟩ := build_of_distinct (distinct_of_perm distinct perm)
  have tags : SameRecords p.tags q.tags := same_tags_of_perm (by rwa [here, there])
  rw [← here, ← there, ← same_categories_iff, here, there]
  constructor
  · rintro ⟨p', q', built', rebuilt', same, _⟩
    cases built.symm.trans built'
    cases rebuilt.symm.trans rebuilt'
    exact same
  · intro same
    exact ⟨p, q, built, rebuilt, same, tags⟩

/-- Any resource can be registered first. -/
theorem firstTranslation_moved {resources : List (ResourceEntry T)} {r : ResourceEntry T}
    (member : r ∈ resources) : ∃ permuted, resources.Perm permuted ∧
      firstTranslation permuted r.metadata.category = some r.metadata.translationId := by
  obtain ⟨front, back, rfl⟩ := List.append_of_mem member
  refine ⟨r :: (front ++ back), List.perm_middle, ?_⟩
  simp [firstTranslation]

theorem firstTranslation_of_one {resources : List (ResourceEntry T)}
    (one : OneTranslationEach resources) {permuted : List (ResourceEntry T)}
    (perm : resources.Perm permuted) (category : String) :
    firstTranslation resources category = firstTranslation permuted category := by
  refine Option.ext fun translation => ?_
  have through {left right : List (ResourceEntry T)} (alike : left.Perm right)
      (one : OneTranslationEach left) (found : firstTranslation left category = some translation) :
      firstTranslation right category = some translation := by
    obtain ⟨r, first, rfl⟩ := Option.map_eq_some_iff.mp found
    have within : r.metadata.category = category := by simpa using List.find?_some first
    have member := List.mem_of_find?_eq_some first
    have some : (right.find? fun r => r.metadata.category = category).isSome := by
      rw [List.find?_isSome]
      exact ⟨r, alike.mem_iff.mp member, by simpa using within⟩
    obtain ⟨r', other⟩ := Option.isSome_iff_exists.mp some
    have within' : r'.metadata.category = category := by simpa using List.find?_some other
    have member' := alike.mem_iff.mpr (List.mem_of_find?_eq_some other)
    rw [firstTranslation, other, Option.map_some,
      one r' member' r member (within'.trans within.symm)]
  have one' : OneTranslationEach permuted := by
    intro r member r' member'
    exact one r (perm.mem_iff.mpr member) r' (perm.mem_iff.mpr member')
  exact ⟨through perm one, through perm.symm one'⟩

/-- **Listings do not depend on the order of registration** exactly when the
resources of a category have one translation. Two given orders are listed alike
exactly when every category starts with the same one, and tags never differ. -/
theorem listings_order_blind_iff {resources : List (ResourceEntry T)}
    (distinct : (resources.map (·.metadata.id)).Nodup) :
    ((∀ permuted, resources.Perm permuted → SameListings resources permuted) ↔
        OneTranslationEach resources) ∧
      (∀ permuted, resources.Perm permuted → (SameListings resources permuted ↔
        ∀ category, firstTranslation resources category = firstTranslation permuted category)) ∧
      ∀ permuted, resources.Perm permuted → SameTags resources permuted := by
  refine ⟨⟨fun blind r member r' member' same => ?_, fun one permuted perm => ?_⟩,
    fun permuted => same_listings_iff distinct, fun permuted => same_tags distinct⟩
  · obtain ⟨left, perm, first⟩ := firstTranslation_moved member
    obtain ⟨right, perm', first'⟩ := firstTranslation_moved member'
    have here := (same_listings_iff distinct perm).mp (blind left perm) r.metadata.category
    have there := (same_listings_iff distinct perm').mp (blind right perm') r'.metadata.category
    rw [first] at here
    rw [first', ← same] at there
    exact Option.some.inj (here.symm.trans there)
  · exact (same_listings_iff distinct perm).mpr (firstTranslation_of_one one perm)

/-- A resource of the given id with a translation of its name. -/
def translated (id translation : String) : ResourceEntry fun _ : Unit => ResourceRuns.switch where
  metadata := ⟨id, id, "currentData", some translation, [], [], none, true, false⟩
  resource := ⟨.readOnly, (), true⟩

theorem alike_translations_order_blind :
    SameListings [translated "on" "state", translated "off" "state"]
      [translated "off" "state", translated "on" "state"] :=
  have distinct : ([translated "on" "state", translated "off" "state"].map (·.metadata.id)).Nodup := by
    simp [translated]
  (listings_order_blind_iff distinct).1.mpr (by
    intro r member r' member' _
    rcases List.mem_pair.mp member with rfl | rfl <;>
      rcases List.mem_pair.mp member' with rfl | rfl <;> rfl) _ (.swap ..)

/-- The category has the translation of whichever resource comes first. -/
theorem own_translations_order_dependent :
    ¬ ∀ permuted, [translated "on" "state.on", translated "off" "state.off"].Perm permuted →
      SameListings [translated "on" "state.on", translated "off" "state.off"] permuted := by
  intro blind
  have same := blind [translated "off" "state.off", translated "on" "state.on"] (.swap ..)
  have first := (same_listings_iff (by decide) (.swap ..)).mp same "currentData"
  exact absurd first (by decide)

end OpenSovd.FacetLaws
