import OpenSovd.DataBuilder
import OpenSovd.Support.Gates

/-! What a chain of builder calls means. A call sequence falls into segments: a
registration, and the calls up to the next one. Each segment is one entry of
the built provider, decorated by the last call of each kind in the segment; the
calls before the first registration belong to no segment. -/
namespace OpenSovd.BuilderProofs
open OpenSovd.Support OpenSovd.Provider OpenSovd.Responses OpenSovd.DataBuilder
open DataProviderBuilder

variable {ι : Type} {T : ι → ResourceType}

/-! ### Segments of a call sequence -/

variable (T) in
/-- What a registration call is given. -/
structure Registration where
  adapter : Adapter
  id : String
  name : String
  category : DataCategory
  impl : ι
  state : (T impl).State

def registration : BuilderCall T → Option (Registration T)
  | .readData id name category impl state => some ⟨.readOnly, id, name, category, impl, state⟩
  | .writeData id name category impl state => some ⟨.writeOnly, id, name, category, impl, state⟩
  | .data id name category impl state => some ⟨.readWrite, id, name, category, impl, state⟩
  | _ => none

def groupsSet : BuilderCall T → Option (List String)
  | .groups groups => some groups
  | _ => none

def tagsSet : BuilderCall T → Option (List String)
  | .tags tags => some tags
  | _ => none

def translationIdSet : BuilderCall T → Option String
  | .translationId id => some id
  | _ => none

def schemaSet : BuilderCall T → Option Json
  | .schema schema => some schema
  | _ => none

/-- What the last call that sets it sets. -/
def lastSet {α : Type} (pick : BuilderCall T → Option α) (calls : List (BuilderCall T)) : Option α :=
  (calls.filterMap pick).getLast?

namespace Registration
variable (r : Registration T)

/-- The schema derived from the value type, null where it does not serialize. -/
def derivedSchema : Json :=
  match r.adapter with
  | .writeOnly => ((T r.impl).writeable.schema r.state).toOption.getD .null
  | _ => ((T r.impl).readable.schema r.state).toOption.getD .null

def resource : DataResourceDyn T := ⟨r.adapter, r.impl, r.state⟩

end Registration

variable (T) in
/-- A registration with the calls before the next one. -/
structure Segment where
  registered : Registration T
  decorators : List (BuilderCall T)

namespace Segment
variable (seg : Segment T)

def metadata : Metadata where
  id := seg.registered.id
  name := seg.registered.name
  category := seg.registered.category.asStr
  translationId := lastSet translationIdSet seg.decorators
  groups := (lastSet groupsSet seg.decorators).getD []
  tags := (lastSet tagsSet seg.decorators).getD []
  schema := some ((lastSet schemaSet seg.decorators).getD seg.registered.derivedSchema)
  isReadable := seg.registered.adapter ≠ .writeOnly
  isWritable := seg.registered.adapter ≠ .readOnly

def entry : ResourceEntry T := ⟨seg.metadata, seg.registered.resource⟩

end Segment

def segments : List (BuilderCall T) → List (Segment T)
  | [] => []
  | call :: rest =>
    match registration call with
    | none => segments rest
    | some r => ⟨r, rest.takeWhile fun next => (registration next).isNone⟩ :: segments rest

/-- The registered ids, in order. -/
def registeredIds (calls : List (BuilderCall T)) : List String :=
  (calls.filterMap registration).map Registration.id

/-- The id repeats an earlier one, and nothing before it repeats. -/
def FirstRepeat (ids : List String) (id : String) : Prop :=
  ∃ before after, ids = before ++ id :: after ∧ id ∈ before ∧ before.Nodup

theorem ids_of_segments (calls : List (BuilderCall T)) :
    (segments calls).map (·.registered.id) = registeredIds calls := by
  induction calls with
  | nil => rfl
  | cons call rest ih =>
    unfold segments registeredIds
    cases made : registration call with
    | none => simpa [made, registeredIds] using ih
    | some r => simpa [made, registeredIds] using ih

/-! ### The collected entries -/

theorem lastSet_append_singleton {α : Type} (pick : BuilderCall T → Option α)
    (calls : List (BuilderCall T)) (call : BuilderCall T) :
    lastSet pick (calls ++ [call]) = (pick call).or (lastSet pick calls) := by
  unfold lastSet
  cases picked : pick call <;> simp [List.filterMap_append, picked]

/-- A decorator changes the last entry only, and none when there is none. -/
theorem perform_decorator {call : BuilderCall T} (decorates : registration call = none)
    (pre : List (ResourceEntry T)) (r : Registration T) (done : List (BuilderCall T)) :
    perform ⟨pre ++ [Segment.entry ⟨r, done⟩]⟩ call =
      ⟨pre ++ [Segment.entry ⟨r, done ++ [call]⟩]⟩ := by
  cases call with
  | readData | writeData | data => cases decorates
  | groups | tags | translationId | schema =>
    simp [perform, DataProviderBuilder.groups, DataProviderBuilder.tags,
      DataProviderBuilder.translationId, DataProviderBuilder.schema, configure,
      List.modifyLast_concat, Segment.entry, Segment.metadata, lastSet_append_singleton,
      groupsSet, tagsSet, translationIdSet, schemaSet]

theorem perform_decorator_nil {call : BuilderCall T} (decorates : registration call = none) :
    perform (⟨[]⟩ : DataProviderBuilder T) call = ⟨[]⟩ := by
  cases call with
  | readData | writeData | data => cases decorates
  | groups | tags | translationId | schema => rfl

theorem perform_registration {call : BuilderCall T} {r : Registration T}
    (registers : registration call = some r) (pre : List (ResourceEntry T)) :
    perform ⟨pre⟩ call = ⟨pre ++ [Segment.entry ⟨r, []⟩]⟩ := by
  cases call with
  | readData | writeData | data =>
    cases registers
    rfl
  | groups | tags | translationId | schema => cases registers

/-- The calls behind an open segment decorate its entry, then add their own. -/
theorem perform_open_segment (calls : List (BuilderCall T)) (pre : List (ResourceEntry T))
    (r : Registration T) (done : List (BuilderCall T)) :
    calls.foldl perform ⟨pre ++ [Segment.entry ⟨r, done⟩]⟩ =
      ⟨pre ++ [Segment.entry ⟨r, done ++ calls.takeWhile fun next => (registration next).isNone⟩] ++
        (segments calls).map Segment.entry⟩ := by
  induction calls generalizing pre r done with
  | nil => simp [segments]
  | cons call rest ih =>
    cases made : registration call with
    | none =>
      rw [List.foldl_cons, perform_decorator made, ih]
      simp [segments, made]
    | some next =>
      rw [List.foldl_cons, perform_registration made, ih]
      simp [segments, made]

/-- The builder holds one entry for every segment. -/
theorem resources_after (calls : List (BuilderCall T)) :
    (after calls).resources = (segments calls).map Segment.entry := by
  unfold after new
  induction calls with
  | nil => rfl
  | cons call rest ih =>
    cases made : registration call with
    | none =>
      rw [List.foldl_cons, perform_decorator_nil made, ih]
      simp [segments, made]
    | some r =>
      rw [List.foldl_cons, perform_registration made, perform_open_segment]
      simp [segments, made]

/-! ### Building -/

theorem insert_fresh_entries {p : BuiltDataProvider T} {entry : ResourceEntry T}
    (fresh : p.findResource entry.metadata.id = none) :
    (p.insert entry).resources.entries = p.resources.entries ++ [(entry.metadata.id, entry)] :=
  OrderedMap.insert_entries_of_fresh fresh

theorem insert_fresh_keys {p : BuiltDataProvider T} {entry : ResourceEntry T}
    (fresh : p.findResource entry.metadata.id = none) :
    (p.insert entry).resources.keys = p.resources.keys ++ [entry.metadata.id] := by
  simp [OrderedMap.keys, insert_fresh_entries fresh]

/-- The loop reports an id exactly when it is the first to repeat one that was
inserted already. -/
theorem insertAll_eq_error_iff {p : BuiltDataProvider T} {entries : List (ResourceEntry T)}
    {id : String} :
    insertAll p entries = .error (.duplicateResourceId id) ↔
      ∃ before after, entries.map (·.metadata.id) = before ++ id :: after ∧
        id ∈ p.resources.keys ++ before ∧ (p.resources.keys ++ before).Nodup := by
  induction entries generalizing p with
  | nil => simp [insertAll]
  | cons entry rest ih =>
    unfold insertAll
    by_cases present : (p.findResource entry.metadata.id).isSome = true
    · obtain ⟨found, held⟩ := Option.isSome_iff_exists.mp present
      have listed : entry.metadata.id ∈ p.resources.keys := OrderedMap.mem_keys_iff.mpr ⟨found, held⟩
      simp only [if_pos present, Except.error.injEq, BuildError.duplicateResourceId.injEq]
      constructor
      · rintro rfl
        exact ⟨[], rest.map (·.metadata.id), rfl, by simpa using listed, by simpa [OrderedMap.keys] using p.resources.nodup⟩
      · rintro ⟨before, after, shape, _, nodup⟩
        cases before with
        | nil => exact (List.cons.inj shape).1
        | cons first before =>
          -- a non-empty front would start with an id the provider holds already
          have same : entry.metadata.id = first := (List.cons.inj shape).1
          have apart := List.disjoint_of_nodup_append nodup
          exact absurd (List.mem_cons_self) (apart (same ▸ listed))
    · have fresh : p.findResource entry.metadata.id = none := by simpa using present
      rw [if_neg present, ih, insert_fresh_keys fresh]
      have absent : entry.metadata.id ∉ p.resources.keys := OrderedMap.get_eq_none_iff.mp fresh
      constructor
      · rintro ⟨before, after, shape, member, nodup⟩
        exact ⟨entry.metadata.id :: before, after, by simp [shape], by simpa using member,
          by simpa using nodup⟩
      · rintro ⟨before, after, shape, member, nodup⟩
        cases before with
        | nil =>
          rw [List.append_nil, ← (List.cons.inj shape).1] at member
          exact absurd member absent
        | cons first before =>
          obtain ⟨rfl, tail⟩ := List.cons.inj shape
          exact ⟨before, after, tail, by simpa using member, by simpa using nodup⟩

/-- Where the loop succeeds, every entry has a slot of its own, in order. -/
theorem entries_of_insertAll {p built : BuiltDataProvider T} {entries : List (ResourceEntry T)}
    (ok : insertAll p entries = .ok built) :
    built.resources.entries = p.resources.entries ++ entries.map fun e => (e.metadata.id, e) := by
  induction entries generalizing p with
  | nil =>
    cases ok
    simp
  | cons entry rest ih =>
    unfold insertAll at ok
    split at ok
    · cases ok
    · rename_i present
      have fresh : p.findResource entry.metadata.id = none := by simpa using present
      rw [ih ok, insert_fresh_entries fresh]
      simp

theorem insertAll_ok_or_error (p : BuiltDataProvider T) (entries : List (ResourceEntry T)) :
    (∃ built, insertAll p entries = .ok built) ∨
      ∃ id, insertAll p entries = .error (.duplicateResourceId id) := by
  cases result : insertAll p entries with
  | ok built => exact Or.inl ⟨built, rfl⟩
  | error error =>
    obtain ⟨id⟩ := error
    exact Or.inr ⟨id, rfl⟩

/-- A list without a first repeat has no repeat. -/
theorem nodup_or_firstRepeat (ids : List String) : ids.Nodup ∨ ∃ id, FirstRepeat ids id := by
  induction ids using List.reverseRecOn with
  | nil => exact Or.inl List.nodup_nil
  | append_singleton ids last ih =>
    rcases ih with nodup | ⟨id, before, after, shape, repeated⟩
    · by_cases member : last ∈ ids
      · exact Or.inr ⟨last, ids, [], rfl, member, nodup⟩
      · refine Or.inl (nodup.append (List.nodup_singleton last) ?_)
        exact List.disjoint_singleton.mpr member
    · exact Or.inr ⟨id, before, after ++ [last], by simp [shape], repeated⟩

theorem FirstRepeat.not_nodup {ids : List String} {id : String} (repeats : FirstRepeat ids id) :
    ¬ ids.Nodup := by
  obtain ⟨before, after, rfl, member, _⟩ := repeats
  intro nodup
  exact List.disjoint_of_nodup_append nodup member (List.mem_cons_self)

theorem build_eq_error_iff {calls : List (BuilderCall T)} {id : String} :
    (after calls).build = .error (.duplicateResourceId id) ↔ FirstRepeat (registeredIds calls) id := by
  have ids : ((segments calls).map Segment.entry).map (·.metadata.id) = registeredIds calls := by
    rw [List.map_map]
    exact ids_of_segments calls
  unfold build FirstRepeat
  rw [resources_after, insertAll_eq_error_iff, ids]
  simp [BuiltDataProvider.empty, OrderedMap.empty, OrderedMap.keys]

theorem build_ok_iff {calls : List (BuilderCall T)} :
    (∃ built, (after calls).build = .ok built) ↔ (registeredIds calls).Nodup := by
  constructor
  · rintro ⟨built, ok⟩
    rcases nodup_or_firstRepeat (registeredIds calls) with nodup | ⟨id, repeats⟩
    · exact nodup
    · rw [build_eq_error_iff.mpr repeats] at ok
      cases ok
  · intro nodup
    rcases insertAll_ok_or_error .empty (after calls).resources with ok | ⟨id, failed⟩
    · exact ok
    · exact absurd nodup (build_eq_error_iff.mp failed).not_nodup

/-- The slots of a built provider are the segments, in order. -/
theorem entries_of_build {calls : List (BuilderCall T)} {built : BuiltDataProvider T}
    (ok : (after calls).build = .ok built) :
    built.resources.entries =
      (segments calls).map fun seg => (seg.registered.id, seg.entry) := by
  rw [entries_of_insertAll ok, resources_after, List.map_map]
  rfl

theorem findResource_of_segment {calls : List (BuilderCall T)} {built : BuiltDataProvider T}
    (ok : (after calls).build = .ok built) {seg : Segment T} (member : seg ∈ segments calls) :
    built.findResource seg.registered.id = some seg.entry := by
  rw [BuiltDataProvider.findResource, OrderedMap.get_eq_some_iff, entries_of_build ok]
  exact List.mem_map_of_mem member

/-! ### What was registered -/

/-- The flags of an entry say which of the resource's methods the provider runs;
the other method is answered without it. -/
structure FlagsAgree (p : BuiltDataProvider T) (id : String) (entry : ResourceEntry T) : Prop where
  reads : entry.metadata.isReadable = true → ∀ includeSchema, p.read id includeSchema =
    entry.resource.readValue.map fun data =>
      ⟨data, if includeSchema then entry.metadata.schema else none⟩
  refusesRead : entry.metadata.isReadable = false → ∀ includeSchema, p.read id includeSchema =
    .error (.internal "resource is write-only")
  writes : entry.metadata.isWritable = true → ∀ value,
    (p.write id value).2 = (entry.resource.writeValue value).2 ∧
      (p.write id value).1.findResource id =
        some { entry with resource := (entry.resource.writeValue value).1 }
  refusesWrite : entry.metadata.isWritable = false → ∀ value,
    p.write id value = (p, .error .readOnly)

theorem flags_agree {calls : List (BuilderCall T)} {built : BuiltDataProvider T}
    (ok : (after calls).build = .ok built) {seg : Segment T} (member : seg ∈ segments calls) :
    FlagsAgree built seg.registered.id seg.entry := by
  have held := findResource_of_segment ok member
  have reads := BuiltDataProvider.read_of_find held
  have writes := BuiltDataProvider.write_of_find held
  have found := BuiltDataProvider.findResource_write held
  obtain ⟨⟨adapter, id, name, category, impl, state⟩, decorators⟩ := seg
  constructor
  · intro readable includeSchema
    rw [reads]
    cases adapter with
    | writeOnly => cases readable
    | readOnly | readWrite => rfl
  · intro unreadable includeSchema
    rw [reads]
    cases adapter with
    | writeOnly => rfl
    | readOnly | readWrite => cases unreadable
  · intro writable value
    rw [found, if_pos rfl, writes]
    cases adapter with
    | readOnly => cases writable
    | writeOnly | readWrite => exact ⟨rfl, rfl⟩
  · intro unwritable value
    cases adapter with
    | writeOnly | readWrite => cases unwritable
    | readOnly => exact Prod.ext (BuiltDataProvider.write_unchanged held rfl) (by rw [writes]; rfl)

/-- What a chain of builder calls builds. -/
structure BuildsWhatWasRegistered (calls : List (BuilderCall T)) : Prop where
  succeeds : (∃ built, (after calls).build = .ok built) ↔ (registeredIds calls).Nodup
  reports : ∀ id, (after calls).build = .error (.duplicateResourceId id) ↔
    FirstRepeat (registeredIds calls) id
  lists : ∀ built, (after calls).build = .ok built →
    built.list {} = .ok ((segments calls).map Segment.metadata)
  flags : ∀ built, (after calls).build = .ok built → ∀ seg ∈ segments calls,
    FlagsAgree built seg.registered.id seg.entry

/-- **A build is what was registered**: it fails on the first repeated id, and
otherwise holds one entry for every segment of the call sequence. -/
theorem builds_what_was_registered (calls : List (BuilderCall T)) :
    BuildsWhatWasRegistered calls where
  succeeds := build_ok_iff
  reports _ := build_eq_error_iff
  lists built ok := by
    have values : built.resources.values = (segments calls).map Segment.entry := by
      rw [OrderedMap.values, entries_of_build ok, List.map_map]
      rfl
    have everything (m : Metadata) : BuiltDataProvider.matchesFilter m {} = true := rfl
    simp only [BuiltDataProvider.list, everything, List.filter_true, values, List.map_map]
    rfl
  flags _ ok _ := flags_agree ok

end OpenSovd.BuilderProofs
