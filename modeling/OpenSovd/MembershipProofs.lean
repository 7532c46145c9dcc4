import OpenSovd.TopologyRuns

/-! Area membership seen from both sides. Removing an area forgets who was
filed under it, while the members keep their area id: an area that is added
again starts out empty and lists a member only once it has been added anew. So
what an area lists is decided by the adds since its last removal, and in a run
that never overwrites an entity under another area it lists nothing else. -/
namespace OpenSovd.MembershipProofs
open OpenSovd.Support OpenSovd.Support.Runs OpenSovd.Entity OpenSovd.Topology OpenSovd.TopologyRuns
open TopologyState IndexedTable

variable {P : Type} {s : TopologyState P}

/-- The call adds the component under this area. -/
def AddsComponent (x c : String) (_ : TopologyState P) (op : TopologyOp P) : Prop :=
  ∃ component, op = .addComponent component ∧ component.id = c ∧ component.areaId = some x

/-- The call adds the app under this area. -/
def AddsApp (x a : String) (_ : TopologyState P) (op : TopologyOp P) : Prop :=
  ∃ app, op = .addApp app ∧ app.id = a ∧ app.areaId = some x

/-- The call takes the registered area out. -/
def RemovesArea (x : String) (s : TopologyState P) (op : TopologyOp P) : Prop :=
  op = .removeArea x ∧ ∃ area, s.areas.get x = some area

/-- The call does not move a registered component or app to another area. -/
def KeepsArea (s : TopologyState P) : TopologyOp P → Prop
  | .addComponent component => ∀ current, s.components.get component.id = some current →
      current.areaId = component.areaId
  | .addApp app => ∀ current, s.apps.get app.id = some current → current.areaId = app.areaId
  | _ => True

/-- Both views of membership name the same entities. -/
structure MembershipAgrees (s : TopologyState P) (x : String) (area : Area) : Prop where
  components : ∀ c, c ∈ (s.componentsOfArea x).map Component.id ↔
    s.areaOfComponent c = .ok (some area)
  componentsOnce : ((s.componentsOfArea x).map Component.id).Nodup
  apps : ∀ a, a ∈ (s.appsOfArea x).map App.id ↔ s.areaOfApp a = .ok (some area)
  appsOnce : ((s.appsOfArea x).map App.id).Nodup

/-- What an area lists after a run: every id once, of the entities in the area
those added under it since its last removal, and no others if the run never
moves a registered entity. -/
structure ListsMembers (ops : List (TopologyOp P)) (x : String) (area : Area) (ids : List String)
    (areaOf : String → Except TopologyError (Option Area))
    (adds : String → TopologyState P → TopologyOp P → Prop) : Prop where
  once : ids.Nodup
  members : ∀ id, areaOf id = .ok (some area) →
    (id ∈ ids ↔ Since perform new (adds id) (RemovesArea x) ops)
  exactly : Guarded perform new KeepsArea ops → ∀ id ∈ ids, areaOf id = .ok (some area)

/-- An area id resolves to the registered area exactly when it is its key. -/
theorem resolves_to_registered {ops : List (TopologyOp P)} {x y : String} {area : Area}
    (registered : (after ops).areas.get x = some area) :
    (after ops).areas.get y = some area ↔ y = x := by
  constructor
  · intro resolved
    rw [← areas_keyed ops resolved, areas_keyed ops registered]
  · rintro rfl
    exact registered

theorem areaOfComponent_eq_iff {ops : List (TopologyOp P)} {x : String} {area : Area}
    (registered : (after ops).areas.get x = some area) (c : String) :
    (after ops).areaOfComponent c = .ok (some area) ↔
      ∃ component, (after ops).components.get c = some component ∧ component.areaId = some x := by
  unfold areaOfComponent
  cases held : (after ops).components.get c with
  | none => simp
  | some component =>
    cases filed : component.areaId with
    | none => simp [filed]
    | some y => simp [filed, resolves_to_registered registered]

theorem areaOfApp_eq_iff {ops : List (TopologyOp P)} {x : String} {area : Area}
    (registered : (after ops).areas.get x = some area) (a : String) :
    (after ops).areaOfApp a = .ok (some area) ↔
      ∃ app, (after ops).apps.get a = some app ∧ app.areaId = some x := by
  unfold areaOfApp
  cases held : (after ops).apps.get a with
  | none => simp
  | some app =>
    cases filed : app.areaId with
    | none => simp [filed]
    | some y => simp [filed, resolves_to_registered registered]

/-- The area index answers for one kind of entity, whichever table it is. -/
theorem lists_members_of_view {ρ : Type} {areaId : ρ → Option String} {idOf : ρ → String}
    (view : View (κ := String) (perform (P := P)) new areaId) {ops : List (TopologyOp P)}
    {x : String} {area : Area} {areaOf : String → Except TopologyError (Option Area)}
    {adds : String → TopologyState P → TopologyOp P → Prop}
    (keyed : Keyed idOf (view.table (after ops)))
    (resolves : ∀ id, areaOf id = .ok (some area) ↔
      ∃ row, (view.table (after ops)).rows.get id = some row ∧ areaId row = some x)
    (puts : ∀ id, view.Puts id x = adds id) (drops : view.Drops x = RemovesArea x)
    (keeps : ∀ s op, KeepsArea s op → ∀ call, view.call s op = some call →
      KeepsGroup areaId (view.table s) call) :
    ListsMembers ops x area (((view.table (after ops)).listed x).map idOf) areaOf adds := by
  refine ⟨listed_keys_nodup keyed x, fun id member => ?_, fun kept id listed => ?_⟩
  · obtain ⟨row, held, filed⟩ := (resolves id).mp member
    rw [mem_listed_keys keyed, ← puts id, ← drops]
    refine Iff.trans ⟨And.left, fun filed => ⟨filed, row, held⟩⟩ ?_
    exact view.filed_iff_put_since_drop ops held filed
  · rw [resolves]
    refine view.exact_of_groups_kept ?_ x id ((mem_listed_keys keyed).mp listed).1
    exact fun done op rest shape => keeps _ op (kept done op rest shape)

theorem componentAreas_puts (x c : String) :
    (componentAreas (P := P)).Puts c x = AddsComponent x c := by
  funext s op
  apply propext
  cases op with
  | addComponent component => simp [View.Puts, AddsComponent, componentAreas, componentAreaCall]
  | removeArea id =>
    simp only [View.Puts, AddsComponent, componentAreas, componentAreaCall, areaDrop]
    split <;> simp
  | _ => simp [View.Puts, AddsComponent, componentAreas, componentAreaCall]

theorem appAreas_puts (x a : String) : (appAreas (P := P)).Puts a x = AddsApp x a := by
  funext s op
  apply propext
  cases op with
  | addApp app => simp [View.Puts, AddsApp, appAreas, appAreaCall]
  | removeArea id =>
    simp only [View.Puts, AddsApp, appAreas, appAreaCall, areaDrop]
    split <;> simp
  | _ => simp [View.Puts, AddsApp, appAreas, appAreaCall]

theorem componentAreas_drops (x : String) : (componentAreas (P := P)).Drops x = RemovesArea x := by
  funext s op
  exact propext componentAreaCall_drop

theorem appAreas_drops (x : String) : (appAreas (P := P)).Drops x = RemovesArea x := by
  funext s op
  exact propext appAreaCall_drop

theorem areaDrop_keeps_group {ρ : Type} {areaId : ρ → Option String} {id : String}
    {t : IndexedTable String ρ String} {call : TableCall String ρ String}
    (made : areaDrop s id = some call) : KeepsGroup areaId t call := by
  unfold areaDrop at made
  split at made <;> cases made
  trivial

theorem componentAreas_keeps_group {op : TopologyOp P} (kept : KeepsArea s op)
    (call : TableCall String (Component P) String) (made : componentAreas.call s op = some call) :
    KeepsGroup Component.areaId (componentAreas.table s) call := by
  cases op with
  | addComponent component =>
    cases made
    exact kept
  | removeComponent id =>
    cases made
    trivial
  | removeArea id => exact areaDrop_keeps_group made
  | _ => cases made

theorem appAreas_keeps_group {op : TopologyOp P} (kept : KeepsArea s op)
    (call : TableCall String (App P) String) (made : appAreas.call s op = some call) :
    KeepsGroup App.areaId (appAreas.table s) call := by
  cases op with
  | addApp app =>
    cases made
    exact kept
  | removeApp id =>
    cases made
    trivial
  | removeArea id => exact areaDrop_keeps_group made
  | _ => cases made

/-- **A registered area lists the members added since its last removal**, for
components and for apps, after any run. -/
theorem area_lists_members_added_since_removal (ops : List (TopologyOp P)) {x : String}
    {area : Area} (registered : (after ops).getArea x = .ok area) :
    ListsMembers ops x area (((after ops).componentsOfArea x).map Component.id)
        (after ops).areaOfComponent (AddsComponent x) ∧
      ListsMembers ops x area (((after ops).appsOfArea x).map App.id)
        (after ops).areaOfApp (AddsApp x) := by
  have held := getArea_eq_ok_iff.mp registered
  constructor
  · exact lists_members_of_view componentAreas (componentAreas_keyed ops)
      (areaOfComponent_eq_iff held) (componentAreas_puts x) (componentAreas_drops x)
      fun _ _ => componentAreas_keeps_group
  · exact lists_members_of_view appAreas (appAreas_keyed ops)
      (areaOfApp_eq_iff held) (appAreas_puts x) (appAreas_drops x)
      fun _ _ => appAreas_keeps_group

/-- The run of `cabin` with its component `ecu`, taken out and added again. -/
def cabinAddedAgain : List (TopologyOp Unit) :=
  [.addArea { id := "cabin", name := "Cabin" },
    .addComponent { id := "ecu", name := "ECU", areaId := some "cabin" },
    .removeArea "cabin", .addArea { id := "cabin", name := "Cabin" }]

theorem cabin_lists_members_added_since_removal :
    (after cabinAddedAgain).getArea "cabin" = .ok { id := "cabin", name := "Cabin" } ∧
      ListsMembers cabinAddedAgain "cabin" { id := "cabin", name := "Cabin" }
        (((after cabinAddedAgain).componentsOfArea "cabin").map Component.id)
        (after cabinAddedAgain).areaOfComponent (AddsComponent "cabin") :=
  ⟨rfl, (area_lists_members_added_since_removal cabinAddedAgain rfl).1⟩

/-- `ecu` still names `cabin` as its area and resolves to it, but the area that
was added again does not list it. -/
theorem area_added_again_lost_its_component :
    ¬ ∀ x area, (after cabinAddedAgain).getArea x = .ok area →
      MembershipAgrees (after cabinAddedAgain) x area := by
  intro agrees
  have listed := ((agrees "cabin" { id := "cabin", name := "Cabin" } rfl).components "ecu").mpr rfl
  exact absurd listed (by decide)

end OpenSovd.MembershipProofs
