import OpenSovd.Support.MapHistory
import OpenSovd.TopologyRuns

/-! The registry of every kind refines its history of guard calls. A lookup
tells what the last call on the id was, a listing has every live entity once, in
the order in which their live periods began, and neither notices the calls on
another kind. -/
namespace OpenSovd.TopologyHistory
open OpenSovd.Support OpenSovd.Entity OpenSovd.Topology OpenSovd.TopologyRuns
open TopologyState MapHistory

variable {P : Type}

def componentCall : TopologyOp P → Option (MapCall String (Component P))
  | .addComponent component => some (.put component.id component)
  | .removeComponent id => some (.remove id)
  | _ => none

def appCall : TopologyOp P → Option (MapCall String (App P))
  | .addApp app => some (.put app.id app)
  | .removeApp id => some (.remove id)
  | _ => none

def areaCall : TopologyOp P → Option (MapCall String Area)
  | .addArea area => some (.put area.id area)
  | .removeArea id => some (.remove id)
  | _ => none

/-- What lookups and listing of one kind tell about a run. -/
structure KindRefines {E : Type} (call : TopologyOp P → Option (MapCall String E))
    (idOf : E → String) (ref : String → EntityRef) (ops : List (TopologyOp P))
    (lookup : String → Except TopologyError E) (listing : List E) : Prop where
  found : ∀ id e, lookup id = .ok e ↔ lastCall call id ops = some (.put id e)
  missing : ∀ id, (∀ e, lastCall call id ops ≠ some (.put id e)) → lookup id = .error (.notFound (ref id))
  listed : ∀ e, e ∈ listing ↔ lastCall call (idOf e) ops = some (.put (idOf e) e)
  once : (listing.map idOf).Nodup
  begun : ∀ e ∈ listing, ∃! position, Begins call ops (idOf e) position
  order : listing.Pairwise fun earlier later => ∀ i j,
    Begins call ops (idOf earlier) i → Begins call ops (idOf later) j → i < j

/-- `components`, `apps` and `areas` with their lookups, and what leaves each alone. -/
structure RegistryRefines (ops : List (TopologyOp P)) : Prop where
  components : KindRefines componentCall Component.id .component ops (after ops).getComponent
    (after ops).listComponents
  apps : KindRefines appCall App.id .app ops (after ops).getApp (after ops).listApps
  areas : KindRefines areaCall Area.id .area ops (after ops).getArea (after ops).listAreas
  componentsFrame : ∀ op, componentCall op = none →
    (after (ops ++ [op])).getComponent = (after ops).getComponent ∧
      (after (ops ++ [op])).listComponents = (after ops).listComponents
  appsFrame : ∀ op, appCall op = none →
    (after (ops ++ [op])).getApp = (after ops).getApp ∧
      (after (ops ++ [op])).listApps = (after ops).listApps
  areasFrame : ∀ op, areaCall op = none →
    (after (ops ++ [op])).getArea = (after ops).getArea ∧
      (after (ops ++ [op])).listAreas = (after ops).listAreas

/-! ### One call on each kind -/

theorem components_perform (s : TopologyState P) (op : TopologyOp P) :
    (s.perform op).components = MapCall.performIf s.components (componentCall op) := by
  cases op with
  | removeComponent id =>
    simp only [perform_removeComponent, removeComponent, componentCall, MapCall.performIf, MapCall.perform]
    cases held : s.components.get id with
    | none => exact (OrderedMap.shiftRemove_of_missing held).symm
    | some component => rfl
  | removeApp id =>
    simp only [perform_removeApp, removeApp]
    cases s.apps.get id <;> rfl
  | removeArea id =>
    simp only [perform_removeArea, removeArea]
    cases s.areas.get id <;> rfl
  | _ => rfl

theorem apps_perform (s : TopologyState P) (op : TopologyOp P) :
    (s.perform op).apps = MapCall.performIf s.apps (appCall op) := by
  cases op with
  | removeApp id =>
    simp only [perform_removeApp, removeApp, appCall, MapCall.performIf, MapCall.perform]
    cases held : s.apps.get id with
    | none => exact (OrderedMap.shiftRemove_of_missing held).symm
    | some app => rfl
  | removeComponent id =>
    simp only [perform_removeComponent, removeComponent]
    cases s.components.get id <;> rfl
  | removeArea id =>
    simp only [perform_removeArea, removeArea]
    cases s.areas.get id <;> rfl
  | _ => rfl

theorem areas_perform (s : TopologyState P) (op : TopologyOp P) :
    (s.perform op).areas = MapCall.performIf s.areas (areaCall op) := by
  cases op with
  | removeArea id =>
    simp only [perform_removeArea, removeArea, areaCall, MapCall.performIf, MapCall.perform]
    cases held : s.areas.get id with
    | none => exact (OrderedMap.shiftRemove_of_missing held).symm
    | some area => rfl
  | removeComponent id =>
    simp only [perform_removeComponent, removeComponent]
    cases s.components.get id <;> rfl
  | removeApp id =>
    simp only [perform_removeApp, removeApp]
    cases s.apps.get id <;> rfl
  | _ => rfl

/-! ### Every run -/

/-- An entity is put under its own id. -/
theorem own_id_of_lastCall {E : Type} {call : TopologyOp P → Option (MapCall String E)}
    {idOf : E → String} (own : ∀ op id e, call op = some (.put id e) → idOf e = id)
    {ops : List (TopologyOp P)} {id : String} {e : E}
    (last : lastCall call id ops = some (.put id e)) : idOf e = id := by
  have member := List.mem_of_mem_filter (List.mem_of_getLast? last)
  obtain ⟨op, _, made⟩ := List.mem_filterMap.mp member
  exact own op id e made

theorem kind_refines {E : Type} {call : TopologyOp P → Option (MapCall String E)}
    {idOf : E → String} {ref : String → EntityRef} {ops : List (TopologyOp P)}
    {lookup : String → Except TopologyError E} {m : OrderedMap String E}
    (own : ∀ op id e, call op = some (.put id e) → idOf e = id)
    (refines : Refines call ops m)
    (reads : ∀ {id e}, lookup id = .ok e ↔ m.get id = some e)
    (misses : ∀ {id}, m.get id = none → lookup id = .error (.notFound (ref id))) :
    KindRefines call idOf ref ops lookup m.values := by
  have keyed : ∀ entry ∈ m.entries, idOf entry.2 = entry.1 := by
    intro entry member
    have held := OrderedMap.get_eq_some_iff.mpr member
    exact own_id_of_lastCall own ((refines.live entry.1 entry.2).mp held)
  have keys : m.values.map idOf = m.keys := by
    rw [OrderedMap.values, OrderedMap.keys, List.map_map]
    exact List.map_congr_left keyed
  constructor
  · intro id e
    rw [reads, refines.live]
  · intro id absent
    have none : m.get id = none := by
      cases held : m.get id with
      | none => rfl
      | some e => exact absurd ((refines.live id e).mp held) (absent e)
    exact misses none
  · intro e
    rw [OrderedMap.mem_values_iff]
    constructor
    · rintro ⟨id, held⟩
      have last := (refines.live id e).mp held
      rwa [own_id_of_lastCall own last]
    · intro last
      exact ⟨idOf e, (refines.live _ _).mpr last⟩
  · rw [keys]
    exact m.nodup
  · intro e member
    exact refines.begun _ (keys ▸ List.mem_map_of_mem member)
  · have order := refines.order
    rw [← keys] at order
    exact List.pairwise_map.mp order

/-- **The registry refines its history**, for every run of guard calls. -/
theorem registry_refines_history (ops : List (TopologyOp P)) : RegistryRefines ops where
  components := by
    refine kind_refines ?_ (refines_of_run rfl components_perform ops) getComponent_eq_ok_iff ?_
    · intro op id e made
      cases op <;> cases made
      rfl
    · intro id missing
      unfold getComponent
      rw [missing]
  apps := by
    refine kind_refines ?_ (refines_of_run rfl apps_perform ops) getApp_eq_ok_iff ?_
    · intro op id e made
      cases op <;> cases made
      rfl
    · intro id missing
      unfold getApp
      rw [missing]
  areas := by
    refine kind_refines ?_ (refines_of_run rfl areas_perform ops) getArea_eq_ok_iff ?_
    · intro op id e made
      cases op <;> cases made
      rfl
    · intro id missing
      unfold getArea
      rw [missing]
  componentsFrame op other := by
    have same : ((after ops).perform op).components = (after ops).components := by
      rw [components_perform, other]
      rfl
    simp only [after_append_singleton]
    constructor
    · funext id
      simp only [getComponent, same]
    · simp only [listComponents, same]
  appsFrame op other := by
    have same : ((after ops).perform op).apps = (after ops).apps := by
      rw [apps_perform, other]
      rfl
    simp only [after_append_singleton]
    constructor
    · funext id
      simp only [getApp, same]
    · simp only [listApps, same]
  areasFrame op other := by
    have same : ((after ops).perform op).areas = (after ops).areas := by
      rw [areas_perform, other]
      rfl
    simp only [after_append_singleton]
    constructor
    · funext id
      simp only [getArea, same]
    · simp only [listAreas, same]

end OpenSovd.TopologyHistory
