import OpenSovd.Entity
import OpenSovd.Support.IndexedTable

/-! The topology registry, its relationship indexes and the write guard, with
the function bodies of the core crate. `insert*` files the new entity in an
index before it overwrites the registry slot and does not look at the entity
it replaces; `remove*` leaves everything alone when the id is missing. -/
namespace OpenSovd.Topology
open OpenSovd.Support OpenSovd.Entity
open IndexedTable (fileUnder unfileFrom)

inductive TopologyEvent where
  | added (entityRef : EntityRef)
  | removed (entityRef : EntityRef)
  deriving DecidableEq, Repr

inductive TopologyError where
  | notFound (entityRef : EntityRef)
  deriving DecidableEq, Repr

structure TopologyState (P : Type) where
  components : OrderedMap String (Component P)
  apps : OrderedMap String (App P)
  areas : OrderedMap String Area
  /-- Component id to the ids of the apps hosted on it. -/
  appsByComponent : GroupIndex String String
  /-- Area id to the ids of the components in it. -/
  componentsByArea : GroupIndex String String
  /-- Area id to the ids of the apps in it. -/
  appsByArea : GroupIndex String String

namespace TopologyState
variable {P : Type}

def new : TopologyState P := ⟨.empty, .empty, .empty, .empty, .empty, .empty⟩

def insertComponent (s : TopologyState P) (id : String) (component : Component P) :
    TopologyState P :=
  { s with
    componentsByArea := fileUnder s.componentsByArea component.areaId id
    components := s.components.insert id component }

def removeComponent (s : TopologyState P) (id : String) : TopologyState P × Option (Component P) :=
  match s.components.get id with
  | none => (s, none)
  | some removed =>
    ({ s with
      components := s.components.shiftRemove id
      componentsByArea := unfileFrom s.componentsByArea removed.areaId id }, some removed)

def insertApp (s : TopologyState P) (id : String) (app : App P) : TopologyState P :=
  { s with
    appsByComponent := fileUnder s.appsByComponent app.componentId id
    appsByArea := fileUnder s.appsByArea app.areaId id
    apps := s.apps.insert id app }

def removeApp (s : TopologyState P) (id : String) : TopologyState P × Option (App P) :=
  match s.apps.get id with
  | none => (s, none)
  | some removed =>
    ({ s with
      apps := s.apps.shiftRemove id
      appsByComponent := unfileFrom s.appsByComponent removed.componentId id
      appsByArea := unfileFrom s.appsByArea removed.areaId id }, some removed)

def insertArea (s : TopologyState P) (id : String) (area : Area) : TopologyState P :=
  { s with areas := s.areas.insert id area }

def removeArea (s : TopologyState P) (id : String) : TopologyState P × Option Area :=
  match s.areas.get id with
  | none => (s, none)
  | some removed =>
    ({ s with
      areas := s.areas.shiftRemove id
      componentsByArea := s.componentsByArea.shiftRemove id
      appsByArea := s.appsByArea.shiftRemove id }, some removed)

/-! ### Queries -/

def getComponent (s : TopologyState P) (id : String) : Except TopologyError (Component P) :=
  match s.components.get id with
  | none => .error (.notFound (.component id))
  | some component => .ok component

def getApp (s : TopologyState P) (id : String) : Except TopologyError (App P) :=
  match s.apps.get id with
  | none => .error (.notFound (.app id))
  | some app => .ok app

def getArea (s : TopologyState P) (id : String) : Except TopologyError Area :=
  match s.areas.get id with
  | none => .error (.notFound (.area id))
  | some area => .ok area

/-- `components()`: every registered component, in registration order. -/
def listComponents (s : TopologyState P) : List (Component P) := s.components.values

/-- `apps()`. -/
def listApps (s : TopologyState P) : List (App P) := s.apps.values

/-- `areas()`. -/
def listAreas (s : TopologyState P) : List Area := s.areas.values

/-- Ids in the index that the registry cannot resolve are skipped. -/
def appsOfComponent (s : TopologyState P) (componentId : String) : List (App P) :=
  (s.appsByComponent.membersOf componentId).filterMap s.apps.get

def componentsOfArea (s : TopologyState P) (areaId : String) : List (Component P) :=
  (s.componentsByArea.membersOf areaId).filterMap s.components.get

def appsOfArea (s : TopologyState P) (areaId : String) : List (App P) :=
  (s.appsByArea.membersOf areaId).filterMap s.apps.get

def componentOfApp (s : TopologyState P) (appId : String) :
    Except TopologyError (Option (Component P)) :=
  match s.apps.get appId with
  | none => .error (.notFound (.app appId))
  | some app =>
    match app.componentId with
    | none => .ok none
    | some componentId => .ok (s.components.get componentId)

def areaOfComponent (s : TopologyState P) (componentId : String) :
    Except TopologyError (Option Area) :=
  match s.components.get componentId with
  | none => .error (.notFound (.component componentId))
  | some component =>
    match component.areaId with
    | none => .ok none
    | some areaId => .ok (s.areas.get areaId)

def areaOfApp (s : TopologyState P) (appId : String) : Except TopologyError (Option Area) :=
  match s.apps.get appId with
  | none => .error (.notFound (.app appId))
  | some app =>
    match app.areaId with
    | none => .ok none
    | some areaId => .ok (s.areas.get areaId)

/-- The registered (kind, id) pairs. -/
def registered (s : TopologyState P) : Set EntityRef :=
  { ref | match ref.kind with
    | .component => ref.id ∈ s.components.keys
    | .app => ref.id ∈ s.apps.keys
    | .area => ref.id ∈ s.areas.keys }

end TopologyState

/-- One call on a write guard. -/
inductive TopologyOp (P : Type) where
  | addComponent (component : Component P)
  | addApp (app : App P)
  | addArea (area : Area)
  | removeComponent (id : String)
  | removeApp (id : String)
  | removeArea (id : String)

/-- The entity a call adds, if it adds one. -/
def TopologyOp.adds {P : Type} : TopologyOp P → Option EntityRef
  | .addComponent component => some component.entityRef
  | .addApp app => some app.entityRef
  | .addArea area => some area.entityRef
  | _ => none

/-- The guarded state and the events batched so far. -/
structure TopologyWriteGuard (P : Type) where
  state : TopologyState P
  pending : List TopologyEvent

namespace TopologyWriteGuard
variable {P : Type}

def addComponent (guard : TopologyWriteGuard P) (component : Component P) :
    TopologyWriteGuard P where
  state := guard.state.insertComponent component.id component
  pending := guard.pending ++ [.added (.component component.id)]

def addApp (guard : TopologyWriteGuard P) (app : App P) : TopologyWriteGuard P where
  state := guard.state.insertApp app.id app
  pending := guard.pending ++ [.added (.app app.id)]

def addArea (guard : TopologyWriteGuard P) (area : Area) : TopologyWriteGuard P where
  state := guard.state.insertArea area.id area
  pending := guard.pending ++ [.added (.area area.id)]

/-- `if self.state.remove(id).is_some() { self.pending.push(Removed(ref)) }`. -/
def pushRemoved {E : Type} (guard : TopologyWriteGuard P) (entityRef : EntityRef)
    (removal : TopologyState P × Option E) : TopologyWriteGuard P where
  state := removal.1
  pending := if removal.2.isSome then guard.pending ++ [.removed entityRef] else guard.pending

def removeComponent (guard : TopologyWriteGuard P) (id : String) : TopologyWriteGuard P :=
  guard.pushRemoved (.component id) (guard.state.removeComponent id)

def removeApp (guard : TopologyWriteGuard P) (id : String) : TopologyWriteGuard P :=
  guard.pushRemoved (.app id) (guard.state.removeApp id)

def removeArea (guard : TopologyWriteGuard P) (id : String) : TopologyWriteGuard P :=
  guard.pushRemoved (.area id) (guard.state.removeArea id)

def perform (guard : TopologyWriteGuard P) : TopologyOp P → TopologyWriteGuard P
  | .addComponent component => guard.addComponent component
  | .addApp app => guard.addApp app
  | .addArea area => guard.addArea area
  | .removeComponent id => guard.removeComponent id
  | .removeApp id => guard.removeApp id
  | .removeArea id => guard.removeArea id

end TopologyWriteGuard

namespace TopologyState
variable {P : Type}

/-- What one guard call does to the guarded state. -/
def perform (s : TopologyState P) (op : TopologyOp P) : TopologyState P :=
  (TopologyWriteGuard.perform ⟨s, []⟩ op).state

/-- The state after a run of guard calls on the empty topology. -/
def after (ops : List (TopologyOp P)) : TopologyState P := ops.foldl perform new

end TopologyState
end OpenSovd.Topology
