import OpenSovd.Support.OrderedMap

/-! Components, apps and areas. A reference carries the kind and the id; an
entity stores its id once, so the reference derived from it cannot have the
wrong kind. The data backend is a type parameter: nothing here calls it. -/
namespace OpenSovd.Entity
open OpenSovd.Support

inductive EntityKind where
  | component
  | app
  | area
  deriving DecidableEq, Repr

/-- A reference to an entity by kind and id. -/
structure EntityRef where
  kind : EntityKind
  id : String
  deriving DecidableEq, Repr

def EntityRef.component (id : String) : EntityRef := ⟨.component, id⟩

def EntityRef.app (id : String) : EntityRef := ⟨.app, id⟩

def EntityRef.area (id : String) : EntityRef := ⟨.area, id⟩

structure Component (P : Type) where
  id : String
  name : String
  areaId : Option String := none
  metadata : OrderedMap String String := .empty
  tags : List String := []
  translationId : Option String := none
  dataProvider : Option P := none

structure App (P : Type) where
  id : String
  name : String
  isLocatedOn : String
  areaId : Option String := none
  metadata : OrderedMap String String := .empty
  tags : List String := []
  translationId : Option String := none
  dataProvider : Option P := none

structure Area where
  id : String
  name : String
  metadata : OrderedMap String String := .empty
  tags : List String := []
  translationId : Option String := none

variable {P : Type}

/-- The host is always set: `Some(&self.is_located_on)`. -/
def App.componentId (app : App P) : Option String := some app.isLocatedOn

def Component.entityRef (component : Component P) : EntityRef := .component component.id

def App.entityRef (app : App P) : EntityRef := .app app.id

def Area.entityRef (area : Area) : EntityRef := .area area.id

/-- The entities one discovery item adds. -/
structure EntityCollection (P : Type) where
  components : List (Component P) := []
  apps : List (App P) := []
  areas : List Area := []

end OpenSovd.Entity
