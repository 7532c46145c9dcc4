import OpenSovd.BuilderProofs
import OpenSovd.Support.Runs

/-! Runs of reads and writes on a built provider, with every resource as its
own state machine. A write reaches the resource it is addressed to once the id
is known, the resource is registered as writable and the value decodes; the
provider answers every other call itself and changes nothing. -/
namespace OpenSovd.ResourceRuns
open OpenSovd.Support OpenSovd.Provider OpenSovd.Responses OpenSovd.DataBuilder
open OpenSovd.BuilderProofs DataProviderBuilder

variable {ι : Type} {T : ι → ResourceType}

/-- One call on a provider. -/
inductive ProviderCall where
  | read (dataId : String) (includeSchema : Bool)
  | write (dataId : String) (value : Json)

/-- The provider after a call. -/
def step (p : BuiltDataProvider T) : ProviderCall → BuiltDataProvider T
  | .read _ _ => p
  | .write dataId value => (p.write dataId value).1

def run (p : BuiltDataProvider T) (calls : List ProviderCall) : BuiltDataProvider T :=
  calls.foldl step p

@[simp] theorem run_append_singleton (p : BuiltDataProvider T) (calls : List ProviderCall)
    (call : ProviderCall) : run p (calls ++ [call]) = step (run p calls) call :=
  Runs.foldl_append_singleton calls call

/-! ### The resources on their own -/

/-- The typed value a call makes the resource write, if it makes it write. -/
def accepted (r : Registration T) : ProviderCall → Option (T r.impl).writeable.Value
  | .read _ _ => none
  | .write dataId value =>
    if dataId = r.id ∧ r.adapter ≠ .readOnly then
      ((T r.impl).writeable.fromValue value).toOption
    else none

/-- The accepted writes, applied in order to the state it was registered with. -/
def stateAfter (r : Registration T) (calls : List ProviderCall) : (T r.impl).State :=
  (calls.filterMap (accepted r)).foldl
    (fun state typed => ((T r.impl).writeable.write state typed).1) r.state

def resourceAfter (r : Registration T) (calls : List ProviderCall) : DataResourceDyn T :=
  ⟨r.adapter, r.impl, stateAfter r calls⟩

def entryAfter (seg : Segment T) (calls : List ProviderCall) : ResourceEntry T :=
  ⟨seg.metadata, resourceAfter seg.registered calls⟩

theorem stateAfter_append_singleton (r : Registration T) (calls : List ProviderCall)
    (call : ProviderCall) :
    stateAfter r (calls ++ [call]) =
      match accepted r call with
      | none => stateAfter r calls
      | some typed => ((T r.impl).writeable.write (stateAfter r calls) typed).1 := by
  unfold stateAfter
  cases made : accepted r call <;> simp [List.filterMap_append, made]

/-- A call that is no write to the resource leaves it alone. -/
theorem resourceAfter_other {r : Registration T} {call : ProviderCall}
    (elsewhere : ∀ value, call ≠ .write r.id value) (calls : List ProviderCall) :
    resourceAfter r (calls ++ [call]) = resourceAfter r calls := by
  have ignored : accepted r call = none := by
    cases call with
    | read dataId includeSchema => rfl
    | write dataId value =>
      have other : dataId ≠ r.id := by
        rintro rfl
        exact elsewhere value rfl
      simp [accepted, other]
  simp [resourceAfter, stateAfter_append_singleton, ignored]

/-- A write through the adapter is the accepted write of the resource. -/
theorem resourceAfter_write (r : Registration T) (calls : List ProviderCall) (value : Json) :
    resourceAfter r (calls ++ [.write r.id value]) = ((resourceAfter r calls).write value).1 := by
  obtain ⟨adapter, id, name, category, impl, state⟩ := r
  simp only [resourceAfter, stateAfter_append_singleton]
  cases decoded : (T impl).writeable.fromValue value <;> cases adapter <;>
    simp [accepted, DataResourceDyn.write, DataResourceDyn.writeValue, decoded, Except.toOption]

/-! ### The provider's slots -/

/-- The slots after a run: those of the build, each with its own resource's state. -/
def slotsAfter (built : List (BuilderCall T)) (calls : List ProviderCall) :
    List (String × ResourceEntry T) :=
  (segments built).map fun seg => (seg.registered.id, entryAfter seg calls)

theorem findResource_of_slots {built : List (BuilderCall T)} {calls : List ProviderCall}
    {p : BuiltDataProvider T} (slots : p.resources.entries = slotsAfter built calls)
    {seg : Segment T} (member : seg ∈ segments built) :
    p.findResource seg.registered.id = some (entryAfter seg calls) := by
  rw [BuiltDataProvider.findResource, OrderedMap.get_eq_some_iff, slots]
  exact List.mem_map_of_mem member

theorem unknown_of_slots {built : List (BuilderCall T)} {calls : List ProviderCall}
    {p : BuiltDataProvider T} (slots : p.resources.entries = slotsAfter built calls) {id : String} :
    p.findResource id = none ↔ id ∉ registeredIds built := by
  have keys : p.resources.keys = registeredIds built := by
    rw [OrderedMap.keys, slots, slotsAfter, List.map_map]
    exact ids_of_segments built
  rw [BuiltDataProvider.findResource, OrderedMap.get_eq_none_iff, keys]

/-- One call changes the slots as it changes the resources on their own. -/
theorem slots_step {built : List (BuilderCall T)} {calls : List ProviderCall}
    {p : BuiltDataProvider T} (slots : p.resources.entries = slotsAfter built calls)
    (call : ProviderCall) :
    (step p call).resources.entries = slotsAfter built (calls ++ [call]) := by
  have kept (ignored : ∀ seg ∈ segments built, ∀ value, call ≠ .write seg.registered.id value) :
      slotsAfter built (calls ++ [call]) = slotsAfter built calls := by
    refine List.map_congr_left fun seg member => ?_
    simp only [entryAfter, resourceAfter_other (ignored seg member)]
  cases call with
  | read dataId includeSchema =>
    rw [kept fun seg _ value => by simp]
    exact slots
  | write dataId value =>
    cases held : p.findResource dataId with
    | none =>
      have unknown := (unknown_of_slots slots).mp held
      rw [kept, step, BuiltDataProvider.write_of_missing held]
      · exact slots
      · rintro seg member value' same
        cases same
        rw [← ids_of_segments] at unknown
        exact unknown (List.mem_map_of_mem (f := fun seg : Segment T => seg.registered.id) member)
    | some entry =>
      have own := p.keyed held
      have changed : (step p (.write dataId value)).resources.entries = p.resources.entries.map
          fun slot => if slot.1 = dataId
            then (dataId, { entry with resource := (entry.resource.write value).1 }) else slot := by
        rw [step, BuiltDataProvider.write_of_find held, BuiltDataProvider.insert]
        simp only [own]
        exact OrderedMap.insert_entries_of_present held
      rw [changed, slots, slotsAfter, List.map_map]
      refine List.map_congr_left fun seg member => ?_
      simp only [Function.comp_apply]
      by_cases same : seg.registered.id = dataId
      · subst same
        rw [findResource_of_slots slots member] at held
        cases held
        simp [entryAfter, resourceAfter_write]
      · have elsewhere : ∀ value', ProviderCall.write dataId value ≠ .write seg.registered.id value' := by
          rintro value' shape
          cases shape
          exact same rfl
        simp [same, entryAfter, resourceAfter_other elsewhere]

/-- After any run every slot holds what its own resource has become. -/
theorem slots_run {built : List (BuilderCall T)} {p : BuiltDataProvider T}
    (ok : (after built).build = .ok p) (calls : List ProviderCall) :
    (run p calls).resources.entries = slotsAfter built calls := by
  induction calls using List.reverseRecOn with
  | nil => exact entries_of_build ok
  | append_singleton calls call ih =>
    rw [run_append_singleton]
    exact slots_step ih call

/-! ### Isolation -/

/-- What a provider holds and answers after a run of reads and writes. Only
where a resource's own write runs may an error come with a changed state. -/
structure WritesAreIsolated (built : List (BuilderCall T)) (calls : List ProviderCall)
    (p : BuiltDataProvider T) : Prop where
  slots : p.resources.entries = slotsAfter built calls
  unknown : ∀ id, id ∉ registeredIds built →
    (∀ includeSchema, p.read id includeSchema = .error (.notFound id)) ∧
      ∀ value, p.write id value = (p, .error (.notFound id))
  readOnly : ∀ seg ∈ segments built, seg.registered.adapter = .readOnly →
    ∀ value, p.write seg.registered.id value = (p, .error .readOnly)
  undecodable : ∀ seg ∈ segments built, seg.registered.adapter ≠ .readOnly → ∀ value message,
    (T seg.registered.impl).writeable.fromValue value = .error message →
      p.write seg.registered.id value = (p, .error (.internal message))
  answers : ∀ seg ∈ segments built, seg.registered.adapter ≠ .readOnly → ∀ value typed,
    (T seg.registered.impl).writeable.fromValue value = .ok typed →
      (p.write seg.registered.id value).2 =
        ((T seg.registered.impl).writeable.write (stateAfter seg.registered calls) typed).2
  reads : ∀ seg ∈ segments built, seg.registered.adapter ≠ .writeOnly → ∀ includeSchema,
    p.read seg.registered.id includeSchema = do
      let value ← (T seg.registered.impl).readable.read (stateAfter seg.registered calls)
      let data ← ((T seg.registered.impl).readable.toValue value).mapError .internal
      return ⟨data, if includeSchema
        then some ((lastSet schemaSet seg.decorators).getD seg.registered.derivedSchema) else none⟩

theorem isolated_of_slots {built : List (BuilderCall T)} {calls : List ProviderCall}
    {p : BuiltDataProvider T} (slots : p.resources.entries = slotsAfter built calls) :
    WritesAreIsolated built calls p where
  slots := slots
  unknown id missing := by
    have none := (unknown_of_slots slots).mpr missing
    exact ⟨BuiltDataProvider.read_of_missing none, BuiltDataProvider.write_of_missing none⟩
  readOnly seg member adapter value := by
    have held := findResource_of_slots slots member
    have refused : (entryAfter seg calls).resource.write value =
        ((entryAfter seg calls).resource, .error .readOnly) := by
      simp [DataResourceDyn.write, entryAfter, resourceAfter, adapter]
    refine Prod.ext (BuiltDataProvider.write_unchanged held (by rw [refused])) ?_
    rw [BuiltDataProvider.write_of_find held, refused]
  undecodable seg member adapter value message failed := by
    have held := findResource_of_slots slots member
    have refused : (entryAfter seg calls).resource.write value =
        ((entryAfter seg calls).resource, .error (.internal message)) := by
      cases shape : seg.registered.adapter <;>
        simp_all [DataResourceDyn.write, DataResourceDyn.writeValue, entryAfter, resourceAfter]
    refine Prod.ext (BuiltDataProvider.write_unchanged held (by rw [refused])) ?_
    rw [BuiltDataProvider.write_of_find held, refused]
  answers seg member adapter value typed decoded := by
    rw [BuiltDataProvider.write_of_find (findResource_of_slots slots member)]
    cases shape : seg.registered.adapter <;>
      simp_all [DataResourceDyn.write, DataResourceDyn.writeValue, entryAfter, resourceAfter]
  reads seg member adapter includeSchema := by
    have readable : (entryAfter seg calls).resource.read =
        (entryAfter seg calls).resource.readValue := by
      cases shape : seg.registered.adapter <;>
        simp_all [DataResourceDyn.read, entryAfter, resourceAfter]
    rw [BuiltDataProvider.read_of_find (findResource_of_slots slots member), readable]
    simp only [DataResourceDyn.readValue, entryAfter, resourceAfter]
    cases (T seg.registered.impl).readable.read (stateAfter seg.registered calls) with
    | error error => rfl
    | ok value => cases serialized : (T seg.registered.impl).readable.toValue value <;>
        simp [bind, Except.bind, Except.map, Except.mapError, serialized, Segment.metadata, pure, Except.pure]

/-- **Writes are isolated**: after any run on a built provider every resource is
what the writes accepted for it made of it, and a call the provider answers
itself changes nothing. -/
theorem writes_are_isolated {built : List (BuilderCall T)} {p : BuiltDataProvider T}
    (ok : (after built).build = .ok p) (calls : List ProviderCall) :
    WritesAreIsolated built calls (run p calls) :=
  isolated_of_slots (slots_run ok calls)

/-- A switch that can be read and set. -/
def switch : ResourceType where
  State := Bool
  readable := {
    Value := Bool
    schema := fun _ => .ok (.string "boolean")
    read := .ok
    toValue := fun on => .ok (.bool on) }
  writeable := {
    Value := Bool
    schema := fun _ => .ok (.string "boolean")
    fromValue := fun
      | .bool on => .ok on
      | _ => .error "expected a boolean"
    write := fun _ on => (on, .ok ()) }

/-- A switch that moves, and then answers that it is read-only. -/
def latch : ResourceType :=
  { switch with writeable := { switch.writeable with write := fun _ on => (on, .error .readOnly) } }

/-- A switch to set, and one that is only read. -/
def switches : List (BuilderCall fun _ : Unit => switch) :=
  [.data "lamp" "Lamp" .currentData () false, .readData "door" "Door" .currentData () true,
    .schema (.string "open or shut")]

theorem switches_are_isolated :
    ∃ p, (after switches).build = .ok p ∧
      WritesAreIsolated switches
        [.write "lamp" (.bool true), .write "lamp" (.string "off"), .write "door" (.bool false),
          .write "horn" .null]
        (run p [.write "lamp" (.bool true), .write "lamp" (.string "off"),
          .write "door" (.bool false), .write "horn" .null]) := by
  have distinct : (registeredIds switches).Nodup := by decide
  obtain ⟨p, ok⟩ := build_ok_iff.mpr distinct
  exact ⟨p, ok, writes_are_isolated ok _⟩

/-- The latch on its own. -/
def latches : List (BuilderCall fun _ : Unit => latch) :=
  [.data "latch" "Latch" .currentData () false]

/-- The latch answers `ReadOnly` and has moved. -/
theorem read_only_answer_after_change :
    ¬ ∀ (p : BuiltDataProvider fun _ : Unit => latch), (after latches).build = .ok p →
      ∀ dataId value, (p.write dataId value).2 = .error .readOnly →
        (p.write dataId value).1.findResource dataId = p.findResource dataId := by
  intro unchanged
  have distinct : (registeredIds latches).Nodup := List.nodup_singleton "latch"
  obtain ⟨p, ok⟩ := build_ok_iff.mpr distinct
  have registered : segments latches =
    [⟨⟨.readWrite, "latch", "Latch", .currentData, (), false⟩, []⟩] := rfl
  have held := findResource_of_segment ok (registered ▸ List.mem_singleton_self _)
  have answered : (p.write "latch" (.bool true)).2 = .error .readOnly := by
    rw [BuiltDataProvider.write_of_find held]
    rfl
  have same := unchanged p ok "latch" (.bool true) answered
  have moved := BuiltDataProvider.findResource_write held (.bool true) "latch"
  rw [same, held, if_pos rfl] at moved
  have positions : (some (.ok (.bool false)) : Option (Except DataError Json)) =
      some (.ok (.bool true)) :=
    congrArg (Option.map fun entry : ResourceEntry _ => entry.resource.read) moved
  cases positions

end OpenSovd.ResourceRuns
