import OpenSovd.DataRequests

/-! Providers in boxes. An entity owns its provider, so the registry holds boxes
whose contents change under a shared reference; what a box holds belongs to one
entity, and guard calls and writes mean the same with the contents in place. -/
namespace OpenSovd.Boxes
open OpenSovd.Support OpenSovd.Provider OpenSovd.Entity OpenSovd.Topology OpenSovd.Responses
open OpenSovd.Handlers OpenSovd.DataRequests
open TopologyState IndexedTable

variable {A P : Type}

/-! ### Providers in place -/

/-- An entity's provider has changed. -/
def setProvider (topo : TopologyState P) : Owner → P → TopologyState P
  | .component id, provider =>
    match topo.components.get id with
    | none => topo
    | some e =>
      { topo with
        components := topo.components.insert id { e with dataProvider := some provider } }
  | .app id, provider =>
    match topo.apps.get id with
    | none => topo
    | some e => { topo with apps := topo.apps.insert id { e with dataProvider := some provider } }

theorem componentProvider_eq_ok_iff {topo : TopologyState P} {id : String} {provider : P} :
    componentProvider topo id = .ok provider ↔
      ∃ e, topo.components.get id = some e ∧ e.dataProvider = some provider := by
  unfold componentProvider getComponent
  cases topo.components.get id with
  | none => simp [orEntityNotFound, bind, Except.bind]
  | some e =>
    cases own : e.dataProvider <;>
      simp [orEntityNotFound, bind, Except.bind, own, throw, throwThe, MonadExceptOf.throw, pure,
        Except.pure]

theorem appProvider_eq_ok_iff {topo : TopologyState P} {id : String} {provider : P} :
    appProvider topo id = .ok provider ↔
      ∃ e, topo.apps.get id = some e ∧ e.dataProvider = some provider := by
  unfold appProvider getApp
  cases topo.apps.get id with
  | none => simp [orEntityNotFound, bind, Except.bind]
  | some e =>
    cases own : e.dataProvider <;>
      simp [orEntityNotFound, bind, Except.bind, own, throw, throwThe, MonadExceptOf.throw, pure,
        Except.pure]

theorem providerOf_component {topo : TopologyState P} {id : String} {e : Component P} {provider : P}
    (held : topo.components.get id = some e) (own : e.dataProvider = some provider) :
    providerOf topo (.component id) = .ok provider :=
  componentProvider_eq_ok_iff.mpr ⟨e, held, own⟩

theorem providerOf_app {topo : TopologyState P} {id : String} {e : App P} {provider : P}
    (held : topo.apps.get id = some e) (own : e.dataProvider = some provider) :
    providerOf topo (.app id) = .ok provider :=
  appProvider_eq_ok_iff.mpr ⟨e, held, own⟩

/-- Providers are looked up in the entity of their owner. -/
theorem providerOf_congr {topo other : TopologyState P} {owner : Owner}
    (components : ∀ id, owner = .component id → other.components.get id = topo.components.get id)
    (apps : ∀ id, owner = .app id → other.apps.get id = topo.apps.get id) :
    providerOf other owner = providerOf topo owner := by
  cases owner with
  | component id => simp only [providerOf, componentProvider, getComponent, components id rfl]
  | app id => simp only [providerOf, appProvider, getApp, apps id rfl]

theorem providerOf_setProvider {topo : TopologyState P} {owner : Owner} {provider : P}
    (found : providerOf topo owner = .ok provider) (changed : P) :
    providerOf (setProvider topo owner changed) owner = .ok changed := by
  cases owner with
  | component id =>
    obtain ⟨e, held, _⟩ := componentProvider_eq_ok_iff.mp found
    refine componentProvider_eq_ok_iff.mpr ⟨{ e with dataProvider := some changed }, ?_, rfl⟩
    simp [setProvider, held]
  | app id =>
    obtain ⟨e, held, _⟩ := appProvider_eq_ok_iff.mp found
    refine appProvider_eq_ok_iff.mpr ⟨{ e with dataProvider := some changed }, ?_, rfl⟩
    simp [setProvider, held]

theorem providerOf_setProvider_other (topo : TopologyState P) {owner other : Owner}
    (differ : owner ≠ other) (changed : P) :
    providerOf (setProvider topo owner changed) other = providerOf topo other := by
  cases owner with
  | component id =>
    simp only [setProvider]
    split
    · rfl
    · refine providerOf_congr (fun probe same => ?_) fun _ _ => rfl
      have distinct : probe ≠ id := fun equal => differ (by rw [same, equal])
      exact (OrderedMap.get_insert _ _ _ _).trans (if_neg distinct)
  | app id =>
    simp only [setProvider]
    split
    · rfl
    · refine providerOf_congr (fun _ _ => rfl) fun probe same => ?_
      have distinct : probe ≠ id := fun equal => differ (by rw [same, equal])
      exact (OrderedMap.get_insert _ _ _ _).trans (if_neg distinct)

/-- The entity with data that a guard call is about. -/
def subject : TopologyOp P → Option Owner
  | .addComponent component => some (.component component.id)
  | .addApp app => some (.app app.id)
  | .removeComponent id => some (.component id)
  | .removeApp id => some (.app id)
  | .addArea _ | .removeArea _ => none

/-- The provider that comes with a guard call. -/
def brought : TopologyOp P → Option P
  | .addComponent component => component.dataProvider
  | .addApp app => app.dataProvider
  | _ => none

theorem components_removeApp (topo : TopologyState P) (id : String) :
    (topo.removeApp id).1.components = topo.components := by
  unfold removeApp
  cases topo.apps.get id <;> rfl

theorem apps_removeComponent (topo : TopologyState P) (id : String) :
    (topo.removeComponent id).1.apps = topo.apps := by
  unfold removeComponent
  cases topo.components.get id <;> rfl

theorem components_removeComponent (topo : TopologyState P) (id : String) :
    (topo.removeComponent id).1.components = topo.components.shiftRemove id := by
  unfold removeComponent
  cases held : topo.components.get id with
  | none => exact (OrderedMap.shiftRemove_of_missing held).symm
  | some e => rfl

theorem apps_removeApp (topo : TopologyState P) (id : String) :
    (topo.removeApp id).1.apps = topo.apps.shiftRemove id := by
  unfold removeApp
  cases held : topo.apps.get id with
  | none => exact (OrderedMap.shiftRemove_of_missing held).symm
  | some e => rfl

theorem entities_removeArea (topo : TopologyState P) (id : String) :
    (topo.removeArea id).1.components = topo.components ∧
      (topo.removeArea id).1.apps = topo.apps := by
  unfold removeArea
  cases topo.areas.get id <;> exact ⟨rfl, rfl⟩

/-- A guard call about another entity leaves a provider where it is. -/
theorem providerOf_perform {topo : TopologyState P} {op : TopologyOp P} {owner : Owner}
    (elsewhere : subject op ≠ some owner) :
    providerOf (topo.perform op) owner = providerOf topo owner := by
  have other {id gone : String} {wrap : String → Owner} (about : subject op = some (wrap gone))
      (same : owner = wrap id) : id ≠ gone :=
    fun equal => elsewhere (by rw [about, same, equal])
  cases op with
  | addComponent component =>
    refine providerOf_congr (fun id same => ?_) fun _ _ => rfl
    exact (OrderedMap.get_insert _ _ _ _).trans (if_neg (other rfl same))
  | addApp app =>
    refine providerOf_congr (fun _ _ => rfl) fun id same => ?_
    exact (OrderedMap.get_insert _ _ _ _).trans (if_neg (other rfl same))
  | addArea area => exact providerOf_congr (fun _ _ => rfl) fun _ _ => rfl
  | removeComponent gone =>
    refine providerOf_congr (fun id same => ?_) fun id _ => ?_
    · exact (congrArg (OrderedMap.get · id) (components_removeComponent topo gone)).trans
        ((OrderedMap.get_shiftRemove _ _ _).trans (if_neg (other rfl same)))
    · exact congrArg (OrderedMap.get · id) (apps_removeComponent topo gone)
  | removeApp gone =>
    refine providerOf_congr (fun id _ => ?_) fun id same => ?_
    · exact congrArg (OrderedMap.get · id) (components_removeApp topo gone)
    · exact (congrArg (OrderedMap.get · id) (apps_removeApp topo gone)).trans
        ((OrderedMap.get_shiftRemove _ _ _).trans (if_neg (other rfl same)))
  | removeArea gone =>
    obtain ⟨components, apps⟩ := entities_removeArea topo gone
    exact providerOf_congr (fun id _ => congrArg (OrderedMap.get · id) components)
      fun id _ => congrArg (OrderedMap.get · id) apps

/-- What the entity of a guard call has afterwards came with the call. -/
theorem providerOf_subject {topo : TopologyState P} {op : TopologyOp P} {owner : Owner}
    {provider : P} (about : subject op = some owner)
    (found : providerOf (topo.perform op) owner = .ok provider) : brought op = some provider := by
  cases op with
  | addComponent component =>
    cases about
    obtain ⟨e, held, own⟩ := componentProvider_eq_ok_iff.mp found
    have here := (OrderedMap.get_insert topo.components _ _ _).symm.trans held
    rw [if_pos rfl] at here
    cases here
    exact own
  | addApp app =>
    cases about
    obtain ⟨e, held, own⟩ := appProvider_eq_ok_iff.mp found
    have here := (OrderedMap.get_insert topo.apps _ _ _).symm.trans held
    rw [if_pos rfl] at here
    cases here
    exact own
  | addArea area => cases about
  | removeComponent gone =>
    cases about
    obtain ⟨e, held, _⟩ := componentProvider_eq_ok_iff.mp found
    have here := (congrArg (OrderedMap.get · gone)
      (components_removeComponent topo gone)).symm.trans held
    rw [OrderedMap.get_shiftRemove, if_pos rfl] at here
    cases here
  | removeApp gone =>
    cases about
    obtain ⟨e, held, _⟩ := appProvider_eq_ok_iff.mp found
    have here := (congrArg (OrderedMap.get · gone) (apps_removeApp topo gone)).symm.trans held
    rw [OrderedMap.get_shiftRemove, if_pos rfl] at here
    cases here
  | removeArea gone => cases about

/-! ### The contents of the boxes -/

def componentContents (heap : A → P) (e : Component A) : Component P where
  id := e.id
  name := e.name
  areaId := e.areaId
  metadata := e.metadata
  tags := e.tags
  translationId := e.translationId
  dataProvider := e.dataProvider.map heap

def appContents (heap : A → P) (e : App A) : App P where
  id := e.id
  name := e.name
  isLocatedOn := e.isLocatedOn
  areaId := e.areaId
  metadata := e.metadata
  tags := e.tags
  translationId := e.translationId
  dataProvider := e.dataProvider.map heap

/-- The registry with what its boxes hold. -/
def contents (heap : A → P) (topo : TopologyState A) : TopologyState P where
  components := topo.components.mapValues (componentContents heap)
  apps := topo.apps.mapValues (appContents heap)
  areas := topo.areas
  appsByComponent := topo.appsByComponent
  componentsByArea := topo.componentsByArea
  appsByArea := topo.appsByArea

def opContents (heap : A → P) : TopologyOp A → TopologyOp P
  | .addComponent component => .addComponent (componentContents heap component)
  | .addApp app => .addApp (appContents heap app)
  | .addArea area => .addArea area
  | .removeComponent id => .removeComponent id
  | .removeApp id => .removeApp id
  | .removeArea id => .removeArea id

theorem providerOf_contents (heap : A → P) (topo : TopologyState A) (owner : Owner) :
    providerOf (contents heap topo) owner = (providerOf topo owner).map heap := by
  cases owner with
  | component id =>
    simp only [providerOf, componentProvider, getComponent, contents, OrderedMap.get_mapValues]
    cases topo.components.get id with
    | none => rfl
    | some e =>
      cases own : e.dataProvider <;>
        simp [orEntityNotFound, bind, Except.bind, componentContents, own, throw, throwThe,
          MonadExceptOf.throw, pure, Except.pure, Except.map]
  | app id =>
    simp only [providerOf, appProvider, getApp, contents, OrderedMap.get_mapValues]
    cases topo.apps.get id with
    | none => rfl
    | some e =>
      cases own : e.dataProvider <;>
        simp [orEntityNotFound, bind, Except.bind, appContents, own, throw, throwThe,
          MonadExceptOf.throw, pure, Except.pure, Except.map]

/-- Guard calls only move boxes. -/
theorem contents_perform (heap : A → P) (topo : TopologyState A) (op : TopologyOp A) :
    contents heap (topo.perform op) = (contents heap topo).perform (opContents heap op) := by
  cases op with
  | addComponent component =>
    change contents heap (topo.insertComponent component.id component) =
      (contents heap topo).insertComponent component.id (componentContents heap component)
    simp only [contents, insertComponent, OrderedMap.mapValues_insert]
    rfl
  | addApp app =>
    change contents heap (topo.insertApp app.id app) =
      (contents heap topo).insertApp app.id (appContents heap app)
    simp only [contents, insertApp, OrderedMap.mapValues_insert]
    rfl
  | addArea area => rfl
  | removeComponent id =>
    change contents heap (topo.removeComponent id).1 = ((contents heap topo).removeComponent id).1
    have lookup : (contents heap topo).components.get id =
        (topo.components.get id).map (componentContents heap) := OrderedMap.get_mapValues _ _ _
    unfold removeComponent
    rw [lookup]
    cases topo.components.get id with
    | none => rfl
    | some e =>
      simp only [contents, Option.map_some, OrderedMap.mapValues_shiftRemove]
      rfl
  | removeApp id =>
    change contents heap (topo.removeApp id).1 = ((contents heap topo).removeApp id).1
    have lookup : (contents heap topo).apps.get id =
        (topo.apps.get id).map (appContents heap) := OrderedMap.get_mapValues _ _ _
    unfold removeApp
    rw [lookup]
    cases topo.apps.get id with
    | none => rfl
    | some e =>
      simp only [contents, Option.map_some, OrderedMap.mapValues_shiftRemove]
      rfl
  | removeArea id =>
    change contents heap (topo.removeArea id).1 = ((contents heap topo).removeArea id).1
    have lookup : (contents heap topo).areas.get id = topo.areas.get id := rfl
    unfold removeArea
    rw [lookup]
    cases topo.areas.get id <;> rfl

/-- A box belongs to one entity. -/
def Exclusive (topo : TopologyState A) : Prop :=
  ∀ owner other box, providerOf topo owner = .ok box → providerOf topo other = .ok box →
    owner = other

/-- No entity has the box. -/
def Unowned (topo : TopologyState A) (box : A) : Prop := ∀ owner, providerOf topo owner ≠ .ok box

theorem exclusive_perform {topo : TopologyState A} (exclusive : Exclusive topo)
    {op : TopologyOp A} (fresh : ∀ box, brought op = some box → Unowned topo box) :
    Exclusive (topo.perform op) := by
  intro owner other box mine theirs
  by_cases first : subject op = some owner <;> by_cases second : subject op = some other
  · exact Option.some.inj (first.symm.trans second)
  · rw [providerOf_perform second] at theirs
    exact absurd theirs (fresh box (providerOf_subject first mine) other)
  · rw [providerOf_perform first] at mine
    exact absurd mine (fresh box (providerOf_subject second theirs) owner)
  · rw [providerOf_perform first] at mine
    rw [providerOf_perform second] at theirs
    exact exclusive owner other box mine theirs

theorem componentContents_congr {heap other : A → P} {e : Component A}
    (same : ∀ box, e.dataProvider = some box → other box = heap box) :
    componentContents other e = componentContents heap e := by
  simp only [componentContents, Option.map_congr same]

theorem appContents_congr {heap other : A → P} {e : App A}
    (same : ∀ box, e.dataProvider = some box → other box = heap box) :
    appContents other e = appContents heap e := by
  simp only [appContents, Option.map_congr same]

theorem opContents_congr {heap other : A → P} {op : TopologyOp A}
    (same : ∀ box, brought op = some box → other box = heap box) :
    opContents other op = opContents heap op := by
  cases op with
  | addComponent component => exact congrArg TopologyOp.addComponent (componentContents_congr same)
  | addApp app => exact congrArg TopologyOp.addApp (appContents_congr same)
  | _ => rfl

/-- Only the contents of boxes that some entity has can be seen. -/
theorem contents_congr {heap other : A → P} {topo : TopologyState A}
    (same : ∀ owner box, providerOf topo owner = .ok box → other box = heap box) :
    contents other topo = contents heap topo := by
  have components : topo.components.mapValues (componentContents other) =
      topo.components.mapValues (componentContents heap) :=
    OrderedMap.mapValues_congr fun id e held => componentContents_congr
      fun box own => same (.component id) box (providerOf_component held own)
  have apps : topo.apps.mapValues (appContents other) =
      topo.apps.mapValues (appContents heap) :=
    OrderedMap.mapValues_congr fun id e held => appContents_congr
      fun box own => same (.app id) box (providerOf_app held own)
  simp only [contents, components, apps]

variable [DecidableEq A]

theorem contents_unowned (heap : A → P) {topo : TopologyState A} {box : A}
    (unowned : Unowned topo box) (provider : P) :
    contents (Function.update heap box provider) topo = contents heap topo := by
  refine contents_congr fun owner found mine => Function.update_of_ne ?_ _ _
  rintro rfl
  exact unowned owner mine

/-- Changing what a box holds changes the provider of its one entity. -/
theorem contents_update (heap : A → P) {topo : TopologyState A} (exclusive : Exclusive topo)
    {owner : Owner} {box : A} (found : providerOf topo owner = .ok box) (provider : P) :
    contents (Function.update heap box provider) topo =
      setProvider (contents heap topo) owner provider := by
  have elsewhere {other : Owner} {theirs : A} (held : providerOf topo other = .ok theirs)
      (differ : other ≠ owner) : Function.update heap box provider theirs = heap theirs := by
    refine Function.update_of_ne ?_ _ _
    rintro rfl
    exact differ (exclusive other owner theirs held found)
  cases owner with
  | component id =>
    obtain ⟨e, held, own⟩ := componentProvider_eq_ok_iff.mp found
    have components := OrderedMap.mapValues_changed
      (f := componentContents heap) (g := componentContents (Function.update heap box provider))
      held fun other theirs here differ => componentContents_congr fun _ mine =>
        elsewhere (providerOf_component here mine) fun same => differ (Owner.component.inj same)
    have apps := OrderedMap.mapValues_congr
      (f := appContents (Function.update heap box provider)) (g := appContents heap)
      fun other theirs (here : topo.apps.get other = some theirs) => appContents_congr fun _ mine =>
        elsewhere (providerOf_app here mine) fun same => by cases same
    have lookup : (contents heap topo).components.get id = some (componentContents heap e) := by
      rw [contents, OrderedMap.get_mapValues, held]
      rfl
    simp only [setProvider, lookup]
    simp only [contents, components, apps]
    simp [componentContents, own]
  | app id =>
    obtain ⟨e, held, own⟩ := appProvider_eq_ok_iff.mp found
    have apps := OrderedMap.mapValues_changed
      (f := appContents heap) (g := appContents (Function.update heap box provider))
      held fun other theirs here differ => appContents_congr fun _ mine =>
        elsewhere (providerOf_app here mine) fun same => differ (Owner.app.inj same)
    have components := OrderedMap.mapValues_congr
      (f := componentContents (Function.update heap box provider)) (g := componentContents heap)
      fun other theirs (here : topo.components.get other = some theirs) =>
        componentContents_congr fun _ mine =>
          elsewhere (providerOf_component here mine) fun same => by cases same
    have lookup : (contents heap topo).apps.get id = some (appContents heap e) := by
      rw [contents, OrderedMap.get_mapValues, held]
      rfl
    simp only [setProvider, lookup]
    simp only [contents, components, apps]
    simp [appContents, own]

end OpenSovd.Boxes
