import Mathlib.Data.Set.Insert
import OpenSovd.Topology

/-! The registry and its three indexes as indexed tables. Each view names the
one table call a guard call makes on its table, so what holds of an indexed
table over every run holds of hosting, of the components in an area and of the
apps in an area. Removing a registered area drops its entry in both area
indexes; nothing ever drops an entry of the hosting index. -/
namespace OpenSovd.TopologyRuns
open OpenSovd.Support OpenSovd.Entity OpenSovd.Topology
open TopologyState IndexedTable

variable {P : Type} {s : TopologyState P}

@[simp] theorem perform_addComponent (component : Component P) :
    s.perform (.addComponent component) = s.insertComponent component.id component := rfl

@[simp] theorem perform_addApp (app : App P) :
    s.perform (.addApp app) = s.insertApp app.id app := rfl

@[simp] theorem perform_addArea (area : Area) :
    s.perform (.addArea area) = s.insertArea area.id area := rfl

@[simp] theorem perform_removeComponent (id : String) :
    s.perform (.removeComponent id) = (s.removeComponent id).1 := rfl

@[simp] theorem perform_removeApp (id : String) :
    s.perform (.removeApp id) = (s.removeApp id).1 := rfl

@[simp] theorem perform_removeArea (id : String) :
    s.perform (.removeArea id) = (s.removeArea id).1 := rfl

@[simp] theorem after_nil : after ([] : List (TopologyOp P)) = new := rfl

@[simp] theorem after_append_singleton (ops : List (TopologyOp P)) (op : TopologyOp P) :
    after (ops ++ [op]) = (after ops).perform op :=
  Runs.foldl_append_singleton ops op

theorem getApp_eq_ok_iff {id : String} {app : App P} :
    s.getApp id = .ok app ↔ s.apps.get id = some app := by
  unfold getApp
  cases s.apps.get id <;> simp

theorem getComponent_eq_ok_iff {id : String} {component : Component P} :
    s.getComponent id = .ok component ↔ s.components.get id = some component := by
  unfold getComponent
  cases s.components.get id <;> simp

theorem getArea_eq_ok_iff {id : String} {area : Area} :
    s.getArea id = .ok area ↔ s.areas.get id = some area := by
  unfold getArea
  cases s.areas.get id <;> simp

/-! ### The registered pairs -/

theorem registered_new : registered (new : TopologyState P) = ∅ := by
  ext ⟨kind, id⟩
  cases kind <;> simp [registered, new, OrderedMap.keys, OrderedMap.empty]

theorem registered_insertComponent (s : TopologyState P) (id : String) (component : Component P) :
    registered (s.insertComponent id component) = insert (.component id) (registered s) := by
  ext ⟨kind, probe⟩
  cases kind <;>
    simp [registered, insertComponent, OrderedMap.mem_keys_insert, EntityRef.component]

theorem registered_insertApp (s : TopologyState P) (id : String) (app : App P) :
    registered (s.insertApp id app) = insert (.app id) (registered s) := by
  ext ⟨kind, probe⟩
  cases kind <;> simp [registered, insertApp, OrderedMap.mem_keys_insert, EntityRef.app]

theorem registered_insertArea (s : TopologyState P) (id : String) (area : Area) :
    registered (s.insertArea id area) = insert (.area id) (registered s) := by
  ext ⟨kind, probe⟩
  cases kind <;> simp [registered, insertArea, OrderedMap.mem_keys_insert, EntityRef.area]

/-- A removal that reports success took out a registered pair, and one that
does not left the state alone. -/
def Removal {E : Type} (s : TopologyState P) (entityRef : EntityRef)
    (removal : TopologyState P × Option E) : Prop :=
  (removal.2.isSome = true ∧ entityRef ∈ registered s ∧
      registered removal.1 = registered s \ {entityRef}) ∨
    (removal.2.isSome = false ∧ removal.1 = s)

theorem removeComponent_removal (s : TopologyState P) (id : String) :
    Removal s (.component id) (s.removeComponent id) := by
  unfold removeComponent
  cases held : s.components.get id with
  | none => exact Or.inr ⟨rfl, rfl⟩
  | some component =>
    refine Or.inl ⟨rfl, OrderedMap.mem_keys_iff.mpr ⟨component, held⟩, ?_⟩
    ext ⟨kind, probe⟩
    cases kind <;> simp [registered, OrderedMap.mem_keys_shiftRemove, EntityRef.component]

theorem removeApp_removal (s : TopologyState P) (id : String) :
    Removal s (.app id) (s.removeApp id) := by
  unfold removeApp
  cases held : s.apps.get id with
  | none => exact Or.inr ⟨rfl, rfl⟩
  | some app =>
    refine Or.inl ⟨rfl, OrderedMap.mem_keys_iff.mpr ⟨app, held⟩, ?_⟩
    ext ⟨kind, probe⟩
    cases kind <;> simp [registered, OrderedMap.mem_keys_shiftRemove, EntityRef.app]

theorem removeArea_removal (s : TopologyState P) (id : String) :
    Removal s (.area id) (s.removeArea id) := by
  unfold removeArea
  cases held : s.areas.get id with
  | none => exact Or.inr ⟨rfl, rfl⟩
  | some area =>
    refine Or.inl ⟨rfl, OrderedMap.mem_keys_iff.mpr ⟨area, held⟩, ?_⟩
    ext ⟨kind, probe⟩
    cases kind <;> simp [registered, OrderedMap.mem_keys_shiftRemove, EntityRef.area]

/-- A guard call registers at most the entity it adds. -/
theorem registered_perform {op : TopologyOp P} {entityRef : EntityRef}
    (member : entityRef ∈ registered (s.perform op)) :
    entityRef ∈ registered s ∨ op.adds = some entityRef := by
  have kept {E : Type} {gone : EntityRef} {removal : TopologyState P × Option E}
      (removed : Removal s gone removal) (member : entityRef ∈ registered removal.1) :
      entityRef ∈ registered s := by
    rcases removed with ⟨_, _, rest⟩ | ⟨_, same⟩
    · exact (rest ▸ member).1
    · exact same ▸ member
  cases op with
  | addComponent component =>
    rw [perform_addComponent, registered_insertComponent, Set.mem_insert_iff] at member
    exact member.symm.imp_right fun same => congrArg some same.symm
  | addApp app =>
    rw [perform_addApp, registered_insertApp, Set.mem_insert_iff] at member
    exact member.symm.imp_right fun same => congrArg some same.symm
  | addArea area =>
    rw [perform_addArea, registered_insertArea, Set.mem_insert_iff] at member
    exact member.symm.imp_right fun same => congrArg some same.symm
  | removeComponent id => exact Or.inl (kept (removeComponent_removal s id) member)
  | removeApp id => exact Or.inl (kept (removeApp_removal s id) member)
  | removeArea id => exact Or.inl (kept (removeArea_removal s id) member)

/-- What is registered after a run was added in it. -/
theorem registered_was_added {ops : List (TopologyOp P)} {entityRef : EntityRef}
    (member : entityRef ∈ registered (after ops)) : ∃ op ∈ ops, op.adds = some entityRef := by
  induction ops using List.reverseRecOn with
  | nil =>
    rw [after_nil, registered_new] at member
    exact absurd member (Set.notMem_empty _)
  | append_singleton ops op ih =>
    rw [after_append_singleton] at member
    rcases registered_perform member with earlier | added
    · obtain ⟨op, among, adds⟩ := ih earlier
      exact ⟨op, List.mem_append_left _ among, adds⟩
    · exact ⟨op, List.mem_append_right _ (.head _), added⟩

/-! ### The three indexed tables -/

/-- The call a guard call makes on the apps indexed by host. -/
def hostingCall : TopologyOp P → Option (TableCall String (App P) String)
  | .addApp app => some (.put app.id app)
  | .removeApp id => some (.remove id)
  | _ => none

/-- `remove_area` drops the area's index entries once it found the area. -/
def areaDrop {ρ : Type} (s : TopologyState P) (id : String) : Option (TableCall String ρ String) :=
  match s.areas.get id with
  | none => none
  | some _ => some (.drop id)

/-- The call a guard call makes on the components indexed by area. -/
def componentAreaCall (s : TopologyState P) :
    TopologyOp P → Option (TableCall String (Component P) String)
  | .addComponent component => some (.put component.id component)
  | .removeComponent id => some (.remove id)
  | .removeArea id => areaDrop s id
  | _ => none

/-- The call a guard call makes on the apps indexed by area. -/
def appAreaCall (s : TopologyState P) : TopologyOp P → Option (TableCall String (App P) String)
  | .addApp app => some (.put app.id app)
  | .removeApp id => some (.remove id)
  | .removeArea id => areaDrop s id
  | _ => none

/-- Apps and the index of apps by host component. -/
def hosting : View (κ := String) (perform (P := P)) (new (P := P)) (App.componentId (P := P)) where
  table s := ⟨s.apps, s.appsByComponent⟩
  call _ op := hostingCall op
  starts := rfl
  simulates s op := by
    cases op with
    | removeComponent id =>
      simp only [perform_removeComponent, removeComponent]
      cases s.components.get id <;> rfl
    | removeApp id =>
      simp only [perform_removeApp, removeApp, hostingCall, IndexedTable.perform]
      cases s.apps.get id <;> rfl
    | removeArea id =>
      simp only [perform_removeArea, removeArea]
      cases s.areas.get id <;> rfl
    | _ => rfl

/-- Components and the index of components by area. -/
def componentAreas : View (κ := String) (perform (P := P)) (new (P := P)) (Component.areaId (P := P)) where
  table s := ⟨s.components, s.componentsByArea⟩
  call := componentAreaCall
  starts := rfl
  simulates s op := by
    cases op with
    | removeComponent id =>
      simp only [perform_removeComponent, removeComponent, componentAreaCall, IndexedTable.perform]
      cases s.components.get id <;> rfl
    | removeApp id =>
      simp only [perform_removeApp, removeApp]
      cases s.apps.get id <;> rfl
    | removeArea id =>
      simp only [perform_removeArea, removeArea, componentAreaCall, areaDrop]
      cases s.areas.get id <;> rfl
    | _ => rfl

/-- Apps and the index of apps by area. -/
def appAreas : View (κ := String) (perform (P := P)) (new (P := P)) (App.areaId (P := P)) where
  table s := ⟨s.apps, s.appsByArea⟩
  call := appAreaCall
  starts := rfl
  simulates s op := by
    cases op with
    | removeComponent id =>
      simp only [perform_removeComponent, removeComponent]
      cases s.components.get id <;> rfl
    | removeApp id =>
      simp only [perform_removeApp, removeApp, appAreaCall, IndexedTable.perform]
      cases s.apps.get id <;> rfl
    | removeArea id =>
      simp only [perform_removeArea, removeArea, appAreaCall, areaDrop]
      cases s.areas.get id <;> rfl
    | _ => rfl

/-- Only the removal of a registered area drops an entry. -/
theorem areaDrop_eq_drop_iff {ρ : Type} {gone id : String} :
    areaDrop (ρ := ρ) s gone = some (.drop id) ↔ gone = id ∧ ∃ area, s.areas.get id = some area := by
  unfold areaDrop
  cases held : s.areas.get gone with
  | none =>
    refine iff_of_false (by simp) ?_
    rintro ⟨rfl, area, found⟩
    rw [held] at found
    cases found
  | some area =>
    constructor
    · intro same
      cases same
      exact ⟨rfl, area, held⟩
    · rintro ⟨rfl, _⟩
      rfl

theorem componentAreaCall_drop {op : TopologyOp P} {id : String} :
    componentAreaCall s op = some (.drop id) ↔ op = .removeArea id ∧ ∃ area, s.areas.get id = some area := by
  cases op with
  | removeArea gone => simpa [componentAreaCall] using areaDrop_eq_drop_iff
  | _ => simp [componentAreaCall]

theorem appAreaCall_drop {op : TopologyOp P} {id : String} :
    appAreaCall s op = some (.drop id) ↔ op = .removeArea id ∧ ∃ area, s.areas.get id = some area := by
  cases op with
  | removeArea gone => simpa [appAreaCall] using areaDrop_eq_drop_iff
  | _ => simp [appAreaCall]

/-! ### Entities are registered under their own id -/

theorem areaDrop_puts_own_key {ρ : Type} {keyOf : ρ → String} {id : String}
    {call : TableCall String ρ String} (made : areaDrop s id = some call) : PutsOwnKey keyOf call := by
  unfold areaDrop at made
  split at made <;> cases made
  trivial

theorem hosting_keyed (ops : List (TopologyOp P)) : Keyed App.id (hosting.table (after ops)) := by
  refine hosting.keyed_of_run (fun s op call made => ?_) ops
  cases op <;> cases made <;> trivial

theorem componentAreas_keyed (ops : List (TopologyOp P)) :
    Keyed Component.id (componentAreas.table (after ops)) := by
  refine componentAreas.keyed_of_run (fun s op call made => ?_) ops
  cases op with
  | removeArea id => exact areaDrop_puts_own_key made
  | addComponent component => cases made; rfl
  | removeComponent id => cases made; trivial
  | _ => cases made

theorem appAreas_keyed (ops : List (TopologyOp P)) :
    Keyed App.id (appAreas.table (after ops)) := hosting_keyed ops

/-- Areas are registered under their own id too; they carry no index. -/
theorem areas_keyed (ops : List (TopologyOp P)) {id : String} {area : Area}
    (held : (after ops).areas.get id = some area) : area.id = id := by
  revert id area
  refine Runs.invariant_of_run
    (I := fun s : TopologyState P => ∀ {id area}, s.areas.get id = some area → area.id = id)
    (fun held => by simp [new] at held) (fun s op keyed => ?_) ops
  intro id area held
  cases op with
  | addArea added =>
    simp only [perform_addArea, insertArea, OrderedMap.get_insert] at held
    split at held
    · rename_i same
      cases held
      exact same.symm
    · exact keyed held
  | removeArea gone =>
    simp only [perform_removeArea, removeArea] at held
    split at held
    · exact keyed held
    · simp only [OrderedMap.get_shiftRemove] at held
      split at held
      · cases held
      · exact keyed held
  | removeComponent gone =>
    simp only [perform_removeComponent, removeComponent] at held
    split at held <;> exact keyed held
  | removeApp gone =>
    simp only [perform_removeApp, removeApp] at held
    split at held <;> exact keyed held
  | addComponent component => exact keyed held
  | addApp app => exact keyed held

end OpenSovd.TopologyRuns
