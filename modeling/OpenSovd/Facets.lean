import Mathlib.Data.List.Perm.Basic
import OpenSovd.DataBuilder

/-! The facets of a provider against its list filters. Each facet query runs its
own loop with a set of keys already seen; whatever the loop, the keys it reports
are the keys of the listing without repeats, and a key is reported exactly when
the filter on that key lists something. -/
namespace OpenSovd.Facets
open OpenSovd.Support OpenSovd.Provider OpenSovd.DataBuilder

/-! ### The first item of every key -/

section FirstOfEach
variable {α κ : Type} [DecidableEq κ] {key : α → κ}

/-- The keys seen so far are skipped, and every other key is kept once. -/
theorem keys_firstOfEach (key : α → κ) (seen : List κ) (items : List α) :
    (firstOfEach key seen items).map key =
      ((items.map key).filter fun k => k ∉ seen).eraseDups := by
  induction items generalizing seen with
  | nil => rfl
  | cons item rest ih =>
    unfold firstOfEach
    by_cases member : key item ∈ seen
    · simp [member, ih]
    · have skipped : ((rest.map key).filter fun k => k ∉ key item :: seen) =
          ((rest.map key).filter fun k => k ∉ seen).filter fun k => !k == key item := by
        rw [List.filter_filter]
        refine List.filter_congr fun k _ => ?_
        by_cases same : k = key item <;> simp [same]
      rw [if_neg member, List.map_cons, List.map_cons, ih, skipped,
        List.filter_cons_of_pos (by simpa using member), List.eraseDups_cons]

theorem mem_keys_firstOfEach {seen : List κ} {items : List α} {k : κ} :
    k ∈ (firstOfEach key seen items).map key ↔ k ∉ seen ∧ ∃ item ∈ items, key item = k := by
  rw [keys_firstOfEach, List.mem_eraseDups, List.mem_filter, List.mem_map, and_comm, decide_eq_true_eq]

theorem nodup_keys_firstOfEach (seen : List κ) (items : List α) :
    ((firstOfEach key seen items).map key).Nodup := by
  induction items generalizing seen with
  | nil => exact List.nodup_nil
  | cons item rest ih =>
    unfold firstOfEach
    by_cases member : key item ∈ seen
    · rw [if_pos member]
      exact ih seen
    · rw [if_neg member, List.map_cons, List.nodup_cons]
      refine ⟨fun again => ?_, ih _⟩
      exact (mem_keys_firstOfEach.mp again).1 (.head _)

/-- What is kept for a key is the first item that has it. -/
theorem mem_firstOfEach {seen : List κ} {items : List α} {item : α} :
    item ∈ firstOfEach key seen items ↔
      key item ∉ seen ∧ (items.find? fun other => key other = key item) = some item := by
  induction items generalizing seen with
  | nil => simp [firstOfEach]
  | cons head rest ih =>
    unfold firstOfEach
    by_cases same : key head = key item
    · rw [List.find?_cons_of_pos (by simpa using same)]
      by_cases member : key head ∈ seen
      · rw [if_pos member, ih]
        simp [← same, member]
      · have later : item ∉ firstOfEach key (key head :: seen) rest := by
          rw [ih]
          simp [same]
        rw [if_neg member, List.mem_cons, or_iff_left later]
        simp [← same, member, eq_comm]
    · rw [List.find?_cons_of_neg (by simpa using same)]
      have other : item ≠ head := by
        rintro rfl
        exact same rfl
      by_cases member : key head ∈ seen
      · rw [if_pos member, ih]
      · rw [if_neg member, List.mem_cons, or_iff_right other, ih]
        simp [Ne.symm same]

theorem firstOfEach_map {β : Type} (f : β → α) (seen : List κ) (items : List β) :
    firstOfEach key seen (items.map f) = (firstOfEach (key ∘ f) seen items).map f := by
  induction items generalizing seen with
  | nil => rfl
  | cons item rest ih =>
    simp only [List.map_cons, firstOfEach, Function.comp_apply, ih]
    split <;> rfl

/-- Splitting a list by the value of a key, over distinct values, loses nothing
whose value is among them. -/
theorem filters_perm (key : α → κ) {ks : List κ} (distinct : ks.Nodup) (items : List α) :
    (ks.flatMap fun k => items.filter fun item => key item = k).Perm
      (items.filter fun item => key item ∈ ks) := by
  induction ks with
  | nil => simp
  | cons k ks ih =>
    obtain ⟨fresh, rest⟩ := List.nodup_cons.mp distinct
    have here : (items.filter fun item => key item = k) =
        (items.filter fun item => key item ∈ k :: ks).filter fun item => key item = k := by
      rw [List.filter_filter]
      refine List.filter_congr fun item _ => ?_
      by_cases same : key item = k <;> simp [same]
    have there : (items.filter fun item => key item ∈ ks) =
        (items.filter fun item => key item ∈ k :: ks).filter fun item => !decide (key item = k) := by
      rw [List.filter_filter]
      refine List.filter_congr fun item _ => ?_
      by_cases same : key item = k
      · simp [same, fresh]
      · simp [same]
    have both := List.filter_append_perm (fun item => decide (key item = k))
      (items.filter fun item => key item ∈ k :: ks)
    rw [List.flatMap_cons]
    refine ((ih rest).append_left _).trans ?_
    rw [here, there]
    exact both

end FirstOfEach

/-! ### A provider's facets -/

variable {ι : Type} {T : ι → ResourceType}

def inCategory (c : String) : DataFilter := { scope := some (.categories [c]) }

def inGroup (g : String) : DataFilter := { scope := some (.groups [g]) }

def tagged (t : String) : DataFilter := { tags := [t] }

/-- Facets against listings: what each facet reports, once and in which order,
and the listings by category as a partition of the whole. -/
structure FacetsAgree (lists : DataFilter → List Metadata) (categories : List String)
    (groups : Option String → List String) (tags : List String) : Prop where
  category : ∀ x, x ∈ categories ↔ lists (inCategory x) ≠ []
  group : ∀ x, x ∈ groups none ↔ lists (inGroup x) ≠ []
  groupWithin : ∀ c x, x ∈ groups (some c) ↔ ∃ m ∈ lists (inGroup x), m ∈ lists (inCategory c)
  tag : ∀ x, x ∈ tags ↔ lists (tagged x) ≠ []
  categoriesOnce : categories.Nodup
  groupsOnce : ∀ within, (groups within).Nodup
  tagsOnce : tags.Nodup
  categoriesInOrder : categories = ((lists {}).map (·.category)).eraseDups
  groupsInOrder : ∀ within, groups within =
    (((lists {}).filter fun m => within.all (m.category = ·)).flatMap (·.groups)).eraseDups
  tagsInOrder : tags = ((lists {}).flatMap (·.tags)).eraseDups
  whole : (categories.flatMap fun c => lists (inCategory c)).Perm (lists {})
  apart : categories.Pairwise fun c c' =>
    (lists (inCategory c)).Disjoint (lists (inCategory c'))

/-- The metadata of every resource. -/
def metadataOf (p : BuiltDataProvider T) : List Metadata := p.resources.values.map (·.metadata)

def listed (p : BuiltDataProvider T) (filter : DataFilter) : List Metadata :=
  (metadataOf p).filter fun m => BuiltDataProvider.matchesFilter m filter

theorem list_eq_listed (p : BuiltDataProvider T) (filter : DataFilter) :
    p.list filter = .ok (listed p filter) := by
  simp only [BuiltDataProvider.list, listed, metadataOf, List.filter_map]
  rfl

theorem listed_inCategory (p : BuiltDataProvider T) (c : String) :
    listed p (inCategory c) = (metadataOf p).filter fun m => m.category = c := by
  refine List.filter_congr fun m _ => ?_
  simp [inCategory, BuiltDataProvider.matchesFilter]

theorem mem_listed_inCategory {p : BuiltDataProvider T} {c : String} {m : Metadata} :
    m ∈ listed p (inCategory c) ↔ m ∈ metadataOf p ∧ m.category = c := by
  rw [listed_inCategory, List.mem_filter, decide_eq_true_eq]

theorem mem_listed_inGroup {p : BuiltDataProvider T} {g : String} {m : Metadata} :
    m ∈ listed p (inGroup g) ↔ m ∈ metadataOf p ∧ g ∈ m.groups := by
  simp [listed, inGroup, BuiltDataProvider.matchesFilter]

theorem mem_listed_tagged {p : BuiltDataProvider T} {t : String} {m : Metadata} :
    m ∈ listed p (tagged t) ↔ m ∈ metadataOf p ∧ t ∈ m.tags := by
  simp [listed, tagged, BuiltDataProvider.matchesFilter]

theorem listed_all (p : BuiltDataProvider T) : listed p {} = metadataOf p := by
  simp [listed, BuiltDataProvider.matchesFilter]

/-- The groups of the resources within a category, in order and with repeats. -/
def groupsWithin (p : BuiltDataProvider T) (within : Option String) : List String :=
  ((metadataOf p).filter fun m => within.all (m.category = ·)).flatMap (·.groups)

theorem categories_eq (p : BuiltDataProvider T) :
    p.categories.map (List.map CategoryInfo.category) =
      .ok ((metadataOf p).map (·.category)).eraseDups := by
  have keys := keys_firstOfEach (·.metadata.category) [] p.resources.values
  simp only [List.not_mem_nil, not_false_eq_true, decide_true, List.filter_true] at keys
  simp only [BuiltDataProvider.categories, Except.map, List.map_map, metadataOf]
  exact congrArg Except.ok keys

theorem groups_eq (p : BuiltDataProvider T) (within : Option String) :
    (p.groups within).map (List.map GroupInfo.id) = .ok (groupsWithin p within).eraseDups := by
  have keys (pairs : List (String × String)) := keys_firstOfEach Prod.fst [] pairs
  simp only [List.not_mem_nil, not_false_eq_true, decide_true, List.filter_true] at keys
  simp only [BuiltDataProvider.groups, Except.map, List.map_map]
  have own (r : ResourceEntry T) :
      r.metadata.groups.map (Prod.fst ∘ fun g => (g, r.metadata.category)) = r.metadata.groups :=
    List.map_id _
  refine congrArg Except.ok ((keys _).trans ?_)
  simp only [groupsWithin, metadataOf, List.map_flatMap, List.map_map, List.filter_map,
    List.flatMap_map, own]
  rfl

theorem tags_eq (p : BuiltDataProvider T) :
    p.tags.map (List.map TagInfo.id) = .ok ((metadataOf p).flatMap (·.tags)).eraseDups := by
  have keys := keys_firstOfEach id [] (p.resources.values.flatMap (·.metadata.tags))
  simp only [List.not_mem_nil, not_false_eq_true, decide_true, List.filter_true, List.map_id] at keys
  simp only [BuiltDataProvider.tags, Except.map, List.map_map, metadataOf, List.flatMap_map]
  exact congrArg Except.ok ((List.map_id _).trans keys)

theorem ne_nil_iff_exists_mem {α : Type} {items : List α} : items ≠ [] ↔ ∃ item, item ∈ items := by
  rw [ne_eq, List.eq_nil_iff_forall_not_mem, not_forall_not]

theorem mem_groupsWithin {p : BuiltDataProvider T} {within : Option String} {g : String} :
    g ∈ groupsWithin p within ↔
      ∃ m ∈ metadataOf p, (∀ c ∈ within, m.category = c) ∧ g ∈ m.groups := by
  unfold groupsWithin
  cases within <;> simp [and_assoc]

theorem nodup_eraseDups (ks : List String) : ks.eraseDups.Nodup := by
  have keys := keys_firstOfEach id [] ks
  simp only [List.map_id, List.not_mem_nil, not_false_eq_true, decide_true, List.filter_true] at keys
  rw [← keys, ← List.map_id (firstOfEach id [] ks)]
  exact nodup_keys_firstOfEach [] ks

theorem listed_facets_agree (p : BuiltDataProvider T) :
    FacetsAgree (listed p) ((metadataOf p).map (·.category)).eraseDups
      (fun within => (groupsWithin p within).eraseDups) ((metadataOf p).flatMap (·.tags)).eraseDups where
  category x := by
    rw [List.mem_eraseDups, List.mem_map, ne_nil_iff_exists_mem]
    simp only [mem_listed_inCategory]
  group x := by
    rw [List.mem_eraseDups, mem_groupsWithin, ne_nil_iff_exists_mem]
    simp [mem_listed_inGroup]
  groupWithin c x := by
    rw [List.mem_eraseDups, mem_groupsWithin]
    simp only [mem_listed_inGroup, mem_listed_inCategory]
    constructor
    · rintro ⟨m, member, within, held⟩
      exact ⟨m, ⟨member, held⟩, member, within c rfl⟩
    · rintro ⟨m, ⟨member, held⟩, _, within⟩
      exact ⟨m, member, by simpa using within, held⟩
  tag x := by
    rw [List.mem_eraseDups, List.mem_flatMap, ne_nil_iff_exists_mem]
    simp only [mem_listed_tagged]
  categoriesOnce := nodup_eraseDups _
  groupsOnce _ := nodup_eraseDups _
  tagsOnce := nodup_eraseDups _
  categoriesInOrder := by rw [listed_all]
  groupsInOrder within := by
    rw [listed_all]
    rfl
  tagsInOrder := by rw [listed_all]
  whole := by
    have covered : (metadataOf p).filter (fun m => m.category ∈
        ((metadataOf p).map (·.category)).eraseDups) = metadataOf p := by
      refine List.filter_eq_self.mpr fun m member => decide_eq_true ?_
      rw [List.mem_eraseDups]
      exact List.mem_map_of_mem member
    have split := filters_perm Metadata.category
      (nodup_eraseDups ((metadataOf p).map (·.category))) (metadataOf p)
    rw [covered] at split
    simpa only [listed_all, listed_inCategory] using split
  apart := by
    have once := nodup_eraseDups ((metadataOf p).map (·.category))
    refine List.Pairwise.imp ?_ once
    intro c c' other m here there
    rw [mem_listed_inCategory] at here there
    exact other (here.2.symm.trans there.2)

/-- **Facets agree with the filters** of every built provider. -/
theorem facets_agree_with_filters (p : BuiltDataProvider T) :
    ∃ lists categories groups tags, (∀ filter, p.list filter = .ok (lists filter)) ∧
      p.categories.map (List.map CategoryInfo.category) = .ok categories ∧
      (∀ within, (p.groups within).map (List.map GroupInfo.id) = .ok (groups within)) ∧
      p.tags.map (List.map TagInfo.id) = .ok tags ∧ FacetsAgree lists categories groups tags :=
  ⟨listed p, _, fun within => (groupsWithin p within).eraseDups, _, list_eq_listed p,
    categories_eq p, groups_eq p, tags_eq p, listed_facets_agree p⟩

end OpenSovd.Facets
