import OpenSovd.Support.TableBatches
import OpenSovd.TopologyRuns

/-! The order in which entities are announced does not matter. An add puts one
row in its own table and looks at nothing that is there, so a batch of adds
leaves every table with what its puts say, whichever member came before or after
its host or its area. -/
namespace OpenSovd.ArrivalOrder
open OpenSovd.Support OpenSovd.Entity OpenSovd.Topology OpenSovd.TopologyRuns
open TopologyState IndexedTable

variable {P : Type} {s s' : TopologyState P}

/-- Both states register the same entities, and list the same entities under
every host and every area, in whatever order. -/
structure SameRegistry (s s' : TopologyState P) : Prop where
  getComponent : ∀ id, s.getComponent id = s'.getComponent id
  getApp : ∀ id, s.getApp id = s'.getApp id
  getArea : ∀ id, s.getArea id = s'.getArea id
  appsOfComponent : ∀ id app, app ∈ s.appsOfComponent id ↔ app ∈ s'.appsOfComponent id
  componentsOfArea : ∀ id component,
    component ∈ s.componentsOfArea id ↔ component ∈ s'.componentsOfArea id
  appsOfArea : ∀ id app, app ∈ s.appsOfArea id ↔ app ∈ s'.appsOfArea id

/-- They also resolve hosts and areas alike. -/
structure SameAnswers (s s' : TopologyState P) : Prop extends SameRegistry s s' where
  componentOfApp : ∀ id, s.componentOfApp id = s'.componentOfApp id
  areaOfComponent : ∀ id, s.areaOfComponent id = s'.areaOfComponent id
  areaOfApp : ∀ id, s.areaOfApp id = s'.areaOfApp id

/-! ### What an add puts in each table -/

def componentPut : TopologyOp P → Option (String × Component P)
  | .addComponent component => some (component.id, component)
  | _ => none

def appPut : TopologyOp P → Option (String × App P)
  | .addApp app => some (app.id, app)
  | _ => none

def areaPut : TopologyOp P → Option (String × Area)
  | .addArea area => some (area.id, area)
  | _ => none

/-- Areas as a table on which nothing is indexed. -/
def areaRows : View (κ := String) (perform (P := P)) (new (P := P))
    (fun _ : Area => (none : Option String)) where
  table s := ⟨s.areas, .empty⟩
  call _ op := match op with
    | .addArea area => some (.put area.id area)
    | .removeArea id => some (.remove id)
    | _ => none
  starts := rfl
  simulates s op := by
    cases op with
    | removeComponent id =>
      simp only [perform_removeComponent, removeComponent]
      cases s.components.get id <;> rfl
    | removeApp id =>
      simp only [perform_removeApp, removeApp]
      cases s.apps.get id <;> rfl
    | removeArea id =>
      simp only [perform_removeArea, removeArea, IndexedTable.perform]
      cases s.areas.get id <;> rfl
    | _ => rfl

/-- The call announces an entity and removes nothing. -/
def Announces (op : TopologyOp P) : Prop := ∃ entityRef, op.adds = some entityRef

theorem hosting_announced (s : TopologyState P) {op : TopologyOp P} (announced : Announces op) :
    hosting.call s op = (appPut op).map fun p => .put p.1 p.2 := by
  obtain ⟨entityRef, adds⟩ := announced
  cases op <;> first | rfl | cases adds

theorem componentAreas_announced (s : TopologyState P) {op : TopologyOp P} (announced : Announces op) :
    componentAreas.call s op = (componentPut op).map fun p => .put p.1 p.2 := by
  obtain ⟨entityRef, adds⟩ := announced
  cases op <;> first | rfl | cases adds

theorem appAreas_announced (s : TopologyState P) {op : TopologyOp P} (announced : Announces op) :
    appAreas.call s op = (appPut op).map fun p => .put p.1 p.2 := by
  obtain ⟨entityRef, adds⟩ := announced
  cases op <;> first | rfl | cases adds

theorem areaRows_announced (s : TopologyState P) {op : TopologyOp P} (announced : Announces op) :
    areaRows.call s op = (areaPut op).map fun p => .put p.1 p.2 := by
  obtain ⟨entityRef, adds⟩ := announced
  cases op <;> first | rfl | cases adds

/-- Where no entity is announced twice, no key of a table is put twice. -/
theorem keys_nodup {ρ : Type} (ref : String → EntityRef) {put : TopologyOp P → Option (String × ρ)}
    (refers : ∀ op p, put op = some p → op.adds = some (ref p.1)) {adds : List (TopologyOp P)}
    (distinct : (adds.map TopologyOp.adds).Nodup) : ((adds.filterMap put).map Prod.fst).Nodup := by
  rw [List.Nodup, List.pairwise_map, List.pairwise_filterMap]
  refine (List.pairwise_map.mp distinct).imp ?_
  intro op op' apart p made p' made' same
  apply apart
  rw [refers op p made, refers op' p' made', same]

/-! ### States with the same tables -/

theorem sameAnswers_of_tables
    (hosted : SameContents (hosting.table s) (hosting.table s'))
    (componentsIn : SameContents (componentAreas.table s) (componentAreas.table s'))
    (appsIn : SameContents (appAreas.table s) (appAreas.table s'))
    (areas : SameContents (areaRows.table s) (areaRows.table s')) : SameAnswers s s' := by
  have apps : ∀ id, s.apps.get id = s'.apps.get id := hosted.rows
  have components : ∀ id, s.components.get id = s'.components.get id := componentsIn.rows
  have areas : ∀ id, s.areas.get id = s'.areas.get id := areas.rows
  refine ⟨⟨?_, ?_, ?_, ?_, ?_, ?_⟩, ?_, ?_, ?_⟩
  · intro id
    simp only [getComponent, components]
  · intro id
    simp only [getApp, apps]
  · intro id
    simp only [getArea, areas]
  · exact fun id app => hosted.mem_listed id app
  · exact fun id component => componentsIn.mem_listed id component
  · exact fun id app => appsIn.mem_listed id app
  · intro id
    simp only [componentOfApp, apps, components]
  · intro id
    simp only [areaOfComponent, components, areas]
  · intro id
    simp only [areaOfApp, apps, areas]

/-- **Arrival order does not matter.** From every state a run reaches, adds of
pairwise distinct entities lead to the same answers in any order. -/
theorem arrival_order_is_irrelevant (ops : List (TopologyOp P)) {adds adds' : List (TopologyOp P)}
    (announced : ∀ op ∈ adds, Announces op) (distinct : (adds.map TopologyOp.adds).Nodup)
    (perm : adds.Perm adds') : SameAnswers (after (ops ++ adds)) (after (ops ++ adds')) := by
  have appKeys : ((adds.filterMap appPut).map Prod.fst).Nodup := by
    refine keys_nodup .app (fun op p made => ?_) distinct
    cases op <;> cases made
    rfl
  have componentKeys : ((adds.filterMap componentPut).map Prod.fst).Nodup := by
    refine keys_nodup .component (fun op p made => ?_) distinct
    cases op <;> cases made
    rfl
  have areaKeys : ((adds.filterMap areaPut).map Prod.fst).Nodup := by
    refine keys_nodup .area (fun op p made => ?_) distinct
    cases op <;> cases made
    rfl
  simp only [after, List.foldl_append]
  apply sameAnswers_of_tables
  · exact hosting.sameContents_of_perm perm
      (fun s op member => hosting_announced s (announced op member)) appKeys _
  · exact componentAreas.sameContents_of_perm perm
      (fun s op member => componentAreas_announced s (announced op member)) componentKeys _
  · exact appAreas.sameContents_of_perm perm
      (fun s op member => appAreas_announced s (announced op member)) appKeys _
  · exact areaRows.sameContents_of_perm perm
      (fun s op member => areaRows_announced s (announced op member)) areaKeys _

/-- An app announced before its host, and both before their area. -/
def climateFirst : List (TopologyOp Unit) :=
  [.addApp { id := "climate", name := "Climate", isLocatedOn := "ecu", areaId := some "cabin" },
    .addComponent { id := "ecu", name := "ECU", areaId := some "cabin" },
    .addArea { id := "cabin", name := "Cabin" }]

theorem climate_may_come_first_or_last :
    SameAnswers (after ([.removeApp "climate"] ++ climateFirst))
      (after ([.removeApp "climate"] ++ climateFirst.reverse)) := by
  refine arrival_order_is_irrelevant [.removeApp "climate"] ?_ (by decide)
    (List.reverse_perm climateFirst).symm
  intro op member
  simp only [climateFirst, List.mem_cons, List.not_mem_nil, or_false] at member
  rcases member with rfl | rfl | rfl
  · exact ⟨.app "climate", rfl⟩
  · exact ⟨.component "ecu", rfl⟩
  · exact ⟨.area "cabin", rfl⟩

end OpenSovd.ArrivalOrder
