import OpenSovd.ArrivalOrder
import OpenSovd.Discovery

/-! A diff that is delivered again. Its second application finds registered what
the first one added, so a removal that found nothing the first time now finds an
entity, and the removal of an area drops what is filed under it. What is
registered stays the same, and so does every listing but one kind: an area the
diff both removes and adds, and that was not registered before, keeps only the
members the diff itself adds. -/
namespace OpenSovd.Redelivery
open OpenSovd.Support OpenSovd.Entity OpenSovd.Topology OpenSovd.TopologyRuns OpenSovd.Discovery
open OpenSovd.ArrivalOrder
open TopologyState IndexedTable

variable {P ρ : Type} {s : TopologyState P} {diff : Diff P}

/-- The diff removes and adds the area, which is not registered. -/
def ReplacesMissing (s : TopologyState P) (diff : Diff P) (x : String) : Prop :=
  .area x ∈ diff.1 ∧ (∃ area ∈ diff.2.areas, area.id = x) ∧ s.areas.get x = none

/-- What the second delivery of a diff to the state `s` leaves of the first. -/
structure Redelivered (s : TopologyState P) (diff : Diff P) (once twice : TopologyState P) : Prop where
  getComponent : ∀ id, twice.getComponent id = once.getComponent id
  getApp : ∀ id, twice.getApp id = once.getApp id
  getArea : ∀ id, twice.getArea id = once.getArea id
  appsOfComponent : ∀ id app, app ∈ twice.appsOfComponent id ↔ app ∈ once.appsOfComponent id
  componentsOfArea : ∀ x, ¬ ReplacesMissing s diff x → ∀ component,
    component ∈ twice.componentsOfArea x ↔ component ∈ once.componentsOfArea x
  appsOfArea : ∀ x, ¬ ReplacesMissing s diff x → ∀ app,
    app ∈ twice.appsOfArea x ↔ app ∈ once.appsOfArea x
  replacedComponents : ∀ x, ReplacesMissing s diff x → ∀ component,
    component ∈ twice.componentsOfArea x ↔ component ∈ once.componentsOfArea x ∧
      ∃ added ∈ diff.2.components, added.id = component.id ∧ added.areaId = some x
  replacedApps : ∀ x, ReplacesMissing s diff x → ∀ app,
    app ∈ twice.appsOfArea x ↔ app ∈ once.appsOfArea x ∧
      ∃ added ∈ diff.2.apps, added.id = app.id ∧ added.areaId = some x

/-! ### The calls of a diff on one table -/

/-- `run_discovery` on one diff: its guard calls in order. -/
def deliver (diff : Diff P) (s : TopologyState P) : TopologyState P := (diffOps diff).foldl perform s

def diffRemovals (diff : Diff P) : List (TopologyOp P) := diff.1.map removeOp

def diffAdds (diff : Diff P) : List (TopologyOp P) :=
  diff.2.components.map .addComponent ++ diff.2.apps.map .addApp ++ diff.2.areas.map .addArea

theorem diffOps_eq (diff : Diff P) : diffOps diff = diffRemovals diff ++ diffAdds diff := by
  simp [diffOps, diffRemovals, diffAdds]

theorem announces_of_mem_diffAdds {op : TopologyOp P} (member : op ∈ diffAdds diff) :
    Announces op := by
  simp only [diffAdds, List.mem_append, List.mem_map] at member
  rcases member with (⟨component, _, rfl⟩ | ⟨app, _, rfl⟩) | ⟨area, _, rfl⟩
  · exact ⟨component.entityRef, rfl⟩
  · exact ⟨app.entityRef, rfl⟩
  · exact ⟨area.entityRef, rfl⟩

theorem mem_componentPuts {id : String} {component : Component P} :
    (id, component) ∈ (diffAdds diff).filterMap componentPut ↔
      component ∈ diff.2.components ∧ component.id = id := by
  simp [diffAdds, componentPut, List.filterMap_append, List.filterMap_map, Function.comp_def, and_comm]

theorem mem_appPuts {id : String} {app : App P} :
    (id, app) ∈ (diffAdds diff).filterMap appPut ↔ app ∈ diff.2.apps ∧ app.id = id := by
  simp [diffAdds, appPut, List.filterMap_append, List.filterMap_map, Function.comp_def, and_comm]

theorem mem_areaPuts {id : String} {area : Area} :
    (id, area) ∈ (diffAdds diff).filterMap areaPut ↔ area ∈ diff.2.areas ∧ area.id = id := by
  simp [diffAdds, areaPut, List.filterMap_append, List.filterMap_map, Function.comp_def, and_comm]

/-- How the removals and the adds of a diff are seen on one table. -/
structure DiffCalls {areaId : ρ → Option String}
    (view : View (κ := String) (perform (P := P)) (new (P := P)) areaId)
    (ref : String → EntityRef) (put : TopologyOp P → Option (String × ρ)) : Prop where
  takesOut : ∀ s gone call, view.call s (removeOp gone) = some call → TakesOut call
  removes : ∀ s gone id, view.call s (removeOp gone) = some (.remove id) ↔ gone = ref id
  puts : ∀ s {op}, Announces op → view.call s op = (put op).map fun p => .put p.1 p.2

/-- The table loses an area's entry when the area is found and removed. -/
def DropsWithArea {areaId : ρ → Option String}
    (view : View (κ := String) (perform (P := P)) (new (P := P)) areaId) : Prop :=
  ∀ s op x, view.call s op = some (.drop x) ↔ op = .removeArea x ∧ ∃ area, s.areas.get x = some area

theorem componentAreas_dropsWithArea : DropsWithArea (componentAreas (P := P)) :=
  fun _ _ _ => componentAreaCall_drop

theorem appAreas_dropsWithArea : DropsWithArea (appAreas (P := P)) :=
  fun _ _ _ => appAreaCall_drop

theorem areaDrop_cases {id : String} {call : TableCall String ρ String}
    (made : areaDrop s id = some call) : call = .drop id := by
  unfold areaDrop at made
  split at made <;> cases made
  rfl

theorem hosting_diffCalls : DiffCalls (hosting (P := P)) .app appPut where
  takesOut s gone call made := by
    obtain ⟨kind, id⟩ := gone
    cases kind <;> cases made
    trivial
  removes s gone probe := by
    obtain ⟨kind, id⟩ := gone
    cases kind <;> simp [hosting, hostingCall, removeOp, EntityRef.app]
  puts s _ announced := hosting_announced s announced

theorem areaRows_diffCalls : DiffCalls (areaRows (P := P)) .area areaPut where
  takesOut s gone call made := by
    obtain ⟨kind, id⟩ := gone
    cases kind <;> cases made
    trivial
  removes s gone probe := by
    obtain ⟨kind, id⟩ := gone
    cases kind <;> simp [areaRows, removeOp, EntityRef.area]
  puts s _ announced := areaRows_announced s announced

theorem componentAreas_diffCalls : DiffCalls (componentAreas (P := P)) .component componentPut where
  takesOut s gone call made := by
    obtain ⟨kind, id⟩ := gone
    cases kind with
    | component =>
      cases made
      trivial
    | app => cases made
    | area =>
      rw [areaDrop_cases made]
      trivial
  removes s gone probe := by
    obtain ⟨kind, id⟩ := gone
    cases kind with
    | component => simp [componentAreas, componentAreaCall, removeOp, EntityRef.component]
    | app => simp [componentAreas, componentAreaCall, removeOp, EntityRef.component]
    | area =>
      refine iff_of_false (fun made => ?_) (by simp [EntityRef.component])
      cases areaDrop_cases made
  puts s _ announced := componentAreas_announced s announced

theorem appAreas_diffCalls : DiffCalls (appAreas (P := P)) .app appPut where
  takesOut s gone call made := by
    obtain ⟨kind, id⟩ := gone
    cases kind with
    | app =>
      cases made
      trivial
    | component => cases made
    | area =>
      rw [areaDrop_cases made]
      trivial
  removes s gone probe := by
    obtain ⟨kind, id⟩ := gone
    cases kind with
    | app => simp [appAreas, appAreaCall, removeOp, EntityRef.app]
    | component => simp [appAreas, appAreaCall, removeOp, EntityRef.app]
    | area =>
      refine iff_of_false (fun made => ?_) (by simp [EntityRef.app])
      cases areaDrop_cases made
  puts s _ announced := appAreas_announced s announced

/-! ### One table after one and after two deliveries -/

section Table
variable {areaId : ρ → Option String}
  {view : View (κ := String) (perform (P := P)) (new (P := P)) areaId} {ref : String → EntityRef}
  {put : TopologyOp P → Option (String × ρ)}

/-- The calls by which the diff takes something out of the table. -/
def outs (view : View (κ := String) (perform (P := P)) (new (P := P)) areaId) (s : TopologyState P)
    (diff : Diff P) : List (TableCall String ρ String) :=
  view.callsAlong s (diffRemovals diff)

theorem takesOut_outs (calls : DiffCalls view ref put) (s : TopologyState P) (diff : Diff P) :
    ∀ call ∈ outs view s diff, TakesOut call := by
  refine view.forall_callsAlong (fun s op member call made => ?_) s
  obtain ⟨gone, _, rfl⟩ := List.mem_map.mp member
  exact calls.takesOut s gone call made

theorem removeOp_inj {gone gone' : EntityRef} :
    removeOp (P := P) gone = removeOp gone' ↔ gone = gone' := by
  obtain ⟨kind, id⟩ := gone
  obtain ⟨kind', id'⟩ := gone'
  cases kind <;> cases kind' <;> simp [removeOp]

theorem remove_mem_outs (calls : DiffCalls view ref put) (s : TopologyState P) (diff : Diff P)
    (id : String) : .remove id ∈ outs view s diff ↔ ref id ∈ diff.1 := by
  have decided : ∀ s, ∀ op ∈ diffRemovals diff,
      view.call s op = some (.remove id) ↔ op = removeOp (ref id) := by
    intro s op member
    obtain ⟨gone, _, rfl⟩ := List.mem_map.mp member
    rw [calls.removes, removeOp_inj]
  rw [outs, view.mem_callsAlong decided]
  simp [diffRemovals, removeOp_inj]

theorem table_after_removals (s : TopologyState P) (diff : Diff P) :
    view.table ((diffRemovals diff).foldl perform s) =
      (view.table s).performAll areaId (outs view s diff) := view.table_foldl _ s

theorem table_after_diff (calls : DiffCalls view ref put) (s : TopologyState P) (diff : Diff P) :
    view.table (deliver diff s) =
      ((view.table s).performAll areaId (outs view s diff)).putAll areaId
        ((diffAdds diff).filterMap put) := by
  rw [deliver, diffOps_eq, List.foldl_append, view.table_foldl_puts fun s op member =>
    calls.puts s (announces_of_mem_diffAdds member), table_after_removals]

theorem rows_redelivered (calls : DiffCalls view ref put) (s : TopologyState P) (diff : Diff P)
    (id : String) :
    (view.table (deliver diff (deliver diff s))).rows.get id =
      (view.table (deliver diff s)).rows.get id := by
  rw [table_after_diff calls (deliver diff s), table_after_diff calls s]
  refine get_redelivered _ (takesOut_outs calls s diff) (takesOut_outs calls _ diff) ?_ id
  intro key
  rw [remove_mem_outs calls, remove_mem_outs calls]

theorem index_redelivered (calls : DiffCalls view ref put) (s : TopologyState P) (diff : Diff P)
    (x id : String) :
    id ∈ (view.table (deliver diff (deliver diff s))).index.membersOf x ↔
      (∃ row, (id, row) ∈ (diffAdds diff).filterMap put ∧ areaId row = some x) ∨
        (id ∈ (view.table (deliver diff s)).index.membersOf x ∧
          .drop x ∉ outs view (deliver diff s) diff) := by
  rw [table_after_diff calls (deliver diff s), table_after_diff calls s]
  refine mem_index_redelivered _ (takesOut_outs calls s diff) (takesOut_outs calls _ diff) ?_ x id
  intro key
  rw [remove_mem_outs calls, remove_mem_outs calls]

/-- A put of the diff is filed after every delivery of it. -/
theorem filed_of_put (calls : DiffCalls view ref put) (s : TopologyState P) {diff : Diff P}
    {x id : String} {row : ρ} (member : (id, row) ∈ (diffAdds diff).filterMap put)
    (area : areaId row = some x) : id ∈ (view.table (deliver diff s)).index.membersOf x := by
  rw [table_after_diff calls s, mem_index_putAll]
  exact Or.inl ⟨row, member, area⟩

/-- What a delivery that drops the area files under it is what it puts there. -/
theorem put_of_filed (calls : DiffCalls view ref put) (s : TopologyState P) {diff : Diff P}
    {x id : String} (dropped : .drop x ∈ outs view s diff)
    (filed : id ∈ (view.table (deliver diff s)).index.membersOf x) :
    ∃ row, (id, row) ∈ (diffAdds diff).filterMap put ∧ areaId row = some x := by
  rw [table_after_diff calls s, mem_index_putAll, mem_index_takeOut _ (takesOut_outs calls s diff)] at filed
  rcases filed with put | ⟨-, undropped, -⟩
  · exact put
  · exact absurd dropped undropped

/-- An area that the second delivery drops only if the first one did lists the
same rows after both. -/
theorem listed_redelivered (calls : DiffCalls view ref put) (s : TopologyState P) {diff : Diff P}
    {x : String} (kept : .drop x ∈ outs view (deliver diff s) diff → .drop x ∈ outs view s diff)
    (row : ρ) :
    row ∈ (view.table (deliver diff (deliver diff s))).listed x ↔
      row ∈ (view.table (deliver diff s)).listed x := by
  have index : ∀ id, id ∈ (view.table (deliver diff (deliver diff s))).index.membersOf x ↔
      id ∈ (view.table (deliver diff s)).index.membersOf x := by
    intro id
    rw [index_redelivered calls]
    constructor
    · rintro (⟨row, member, area⟩ | ⟨filed, _⟩)
      · exact filed_of_put calls s member area
      · exact filed
    · intro filed
      by_cases dropped : .drop x ∈ outs view (deliver diff s) diff
      · exact Or.inl (put_of_filed calls s (kept dropped) filed)
      · exact Or.inr ⟨filed, dropped⟩
  simp only [mem_listed, index, rows_redelivered calls]

/-- An area that the second delivery drops then lists, of what it listed before,
what the diff puts there. -/
theorem listed_after_drop (calls : DiffCalls view ref put) {idOf : ρ → String} (s : TopologyState P)
    {diff : Diff P} {x : String} (keyed : Keyed idOf (view.table (deliver diff s)))
    (dropped : .drop x ∈ outs view (deliver diff s) diff) (row : ρ) :
    row ∈ (view.table (deliver diff (deliver diff s))).listed x ↔
      row ∈ (view.table (deliver diff s)).listed x ∧
        ∃ added, (idOf row, added) ∈ (diffAdds diff).filterMap put ∧ areaId added = some x := by
  simp only [mem_listed, index_redelivered calls, rows_redelivered calls, dropped, not_true_eq_false,
    and_false, or_false]
  constructor
  · rintro ⟨id, ⟨added, member, area⟩, held⟩
    cases keyed id row held
    exact ⟨⟨idOf row, filed_of_put calls s member area, held⟩, added, member, area⟩
  · rintro ⟨⟨id, _, held⟩, added⟩
    cases keyed id row held
    exact ⟨idOf row, added, held⟩

theorem area_kept_by_removals (s : TopologyState P) (diff : Diff P) (x : String) (area : Area) :
    ((diffRemovals diff).foldl perform s).areas.get x = some area ↔
      .area x ∉ diff.1 ∧ s.areas.get x = some area := by
  have rows : ((diffRemovals diff).foldl perform s).areas =
      (areaRows.table ((diffRemovals diff).foldl perform s)).rows := rfl
  rw [rows, table_after_removals, get_takeOut _ (takesOut_outs areaRows_diffCalls s diff)]
  exact and_congr_left' (remove_mem_outs areaRows_diffCalls s diff x).not

/-- Whether a delivery drops an area is decided by the state before it. -/
theorem drop_mem_outs (drops : DropsWithArea view) (s : TopologyState P) (diff : Diff P) (x : String) :
    .drop x ∈ outs view s diff ↔ .area x ∈ diff.1 ∧ ∃ area, s.areas.get x = some area := by
  obtain ⟨gone, add⟩ := diff
  simp only [outs, diffRemovals]
  induction gone generalizing s with
  | nil => simp [View.callsAlong]
  | cons first rest ih =>
    have removes : removeOp (P := P) first = .removeArea x ↔ first = .area x :=
      @removeOp_inj P first (.area x)
    have left : ∀ area, (s.perform (removeOp first)).areas.get x = some area ↔
        first ≠ .area x ∧ s.areas.get x = some area := by
      intro area
      simpa [diffRemovals, eq_comm] using area_kept_by_removals s ([first], {}) x area
    rw [List.map_cons, View.callsAlong, List.mem_append, Option.mem_toList, drops, removes, ih]
    simp only [left, List.mem_cons]
    by_cases same : first = .area x
    · simp [same]
    · simp [same, Ne.symm same]

end Table

/-! ### The areas a diff removes -/

/-- An area the diff removes is registered afterwards if the diff adds it. -/
theorem removed_area_registered_iff (s : TopologyState P) {x : String} (gone : .area x ∈ diff.1) :
    (∃ area, (deliver diff s).areas.get x = some area) ↔ ∃ area ∈ diff.2.areas, area.id = x := by
  have rows : (deliver diff s).areas = (areaRows.table (deliver diff s)).rows := rfl
  have taken : ((areaRows.table s).performAll (fun _ => none) (outs areaRows s diff)).rows.get x = none := by
    rw [Option.eq_none_iff_forall_ne_some]
    intro area held
    have stays := ((get_takeOut _ (takesOut_outs areaRows_diffCalls s diff)).mp held).1
    exact stays ((remove_mem_outs areaRows_diffCalls s diff x).mpr gone)
  simp only [rows, table_after_diff areaRows_diffCalls, get_putAll, taken, Option.or_none,
    exists_lastPut, mem_areaPuts]

section Areas
variable {areaId : ρ → Option String}
  {view : View (κ := String) (perform (P := P)) (new (P := P)) areaId}

theorem drop_mem_redelivered (drops : DropsWithArea view) (s : TopologyState P) (diff : Diff P) (x : String) :
    .drop x ∈ outs view (deliver diff s) diff ↔
      .area x ∈ diff.1 ∧ ∃ area ∈ diff.2.areas, area.id = x := by
  rw [drop_mem_outs drops]
  exact and_congr_right fun gone => removed_area_registered_iff s gone

/-- Only an area that was missing is dropped by the second delivery alone. -/
theorem dropped_before (drops : DropsWithArea view) {x : String} (present : ¬ ReplacesMissing s diff x)
    (again : .drop x ∈ outs view (deliver diff s) diff) : .drop x ∈ outs view s diff := by
  obtain ⟨gone, added⟩ := (drop_mem_redelivered drops s diff x).mp again
  rw [drop_mem_outs drops]
  refine ⟨gone, ?_⟩
  by_contra missing
  have none : s.areas.get x = none := by
    rw [Option.eq_none_iff_forall_ne_some]
    exact fun area held => missing ⟨area, held⟩
  exact present ⟨gone, added, none⟩

end Areas

theorem hosting_never_drops (s : TopologyState P) (diff : Diff P) (x : String) :
    .drop x ∉ outs hosting s diff := by
  intro dropped
  refine hosting.forall_callsAlong (p := fun call => call ≠ .drop x) ?_ s _ dropped rfl
  intro s op _ call made same
  rw [same] at made
  cases op <;> cases made

/-! ### The whole registry -/

/-- **A diff delivered again** registers what it registered the first time, and
every host and every area lists the same, but for an area that was missing
before and that the diff both removes and adds: of its members the second
delivery keeps those the diff adds. -/
theorem redelivered_diff (ops : List (TopologyOp P)) (diff : Diff P) :
    Redelivered (after ops) diff (after (ops ++ diffOps diff))
      (after (ops ++ diffOps diff ++ diffOps diff)) := by
  have once : after (ops ++ diffOps diff) = deliver diff (after ops) := List.foldl_append
  have twice : after (ops ++ diffOps diff ++ diffOps diff) = deliver diff (deliver diff (after ops)) := by
    rw [← once]
    exact List.foldl_append
  have componentsKeyed := componentAreas_keyed (ops ++ diffOps diff)
  have appsKeyed := appAreas_keyed (ops ++ diffOps diff)
  rw [once] at componentsKeyed appsKeyed
  rw [twice, once]
  have components : ∀ id, (deliver diff (deliver diff (after ops))).components.get id =
      (deliver diff (after ops)).components.get id :=
    rows_redelivered componentAreas_diffCalls (after ops) diff
  have apps : ∀ id, (deliver diff (deliver diff (after ops))).apps.get id =
      (deliver diff (after ops)).apps.get id :=
    rows_redelivered hosting_diffCalls (after ops) diff
  have areas : ∀ id, (deliver diff (deliver diff (after ops))).areas.get id =
      (deliver diff (after ops)).areas.get id :=
    rows_redelivered areaRows_diffCalls (after ops) diff
  constructor
  · intro id
    simp only [getComponent, components]
  · intro id
    simp only [getApp, apps]
  · intro id
    simp only [getArea, areas]
  · intro id
    refine listed_redelivered hosting_diffCalls (after ops) fun dropped => ?_
    exact absurd dropped (hosting_never_drops _ diff id)
  · intro x present
    exact listed_redelivered componentAreas_diffCalls (after ops)
      (dropped_before componentAreas_dropsWithArea present)
  · intro x present
    exact listed_redelivered appAreas_diffCalls (after ops)
      (dropped_before appAreas_dropsWithArea present)
  · intro x replaced component
    have dropped := (drop_mem_redelivered componentAreas_dropsWithArea (after ops) diff x).mpr
      ⟨replaced.1, replaced.2.1⟩
    have listed := listed_after_drop componentAreas_diffCalls (after ops) componentsKeyed dropped component
    simp only [mem_componentPuts, and_assoc] at listed
    exact listed
  · intro x replaced app
    have dropped := (drop_mem_redelivered appAreas_dropsWithArea (after ops) diff x).mpr
      ⟨replaced.1, replaced.2.1⟩
    have listed := listed_after_drop appAreas_diffCalls (after ops) appsKeyed dropped app
    simp only [mem_appPuts, and_assoc] at listed
    exact listed

/-- `ecu` is announced under `cabin` before `cabin` is. -/
def ecuFirst : List (TopologyOp Unit) :=
  [.addComponent { id := "ecu", name := "ECU", areaId := some "cabin" }]

/-- A diff that replaces `cabin`. -/
def cabinReplaced : Diff Unit := ([.area "cabin"], { areas := [{ id := "cabin", name := "Cabin" }] })

/-- The first delivery finds no area to remove and adds one that lists `ecu`;
the second removes that area, and with it the entry. -/
theorem replaced_area_forgets_early_member :
    ¬ SameRegistry (after (ecuFirst ++ diffOps cabinReplaced))
      (after (ecuFirst ++ diffOps cabinReplaced ++ diffOps cabinReplaced)) := by
  intro same
  have listed := same.componentsOfArea "cabin" { id := "ecu", name := "ECU", areaId := some "cabin" }
  have once := listed.mp (List.mem_singleton.mpr rfl)
  cases once

end OpenSovd.Redelivery
