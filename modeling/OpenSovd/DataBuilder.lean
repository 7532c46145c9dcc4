import Mathlib.Data.List.ModifyLast
import OpenSovd.Responses

/-! The builder of data providers and the provider it builds. A resource is a
state machine of some type that implements the read trait, the write trait or
both; an adapter decides which of its methods the provider can reach, and turns
typed values into JSON and back. The builder only collects entries, and finds a
repeated id when it builds. -/
namespace OpenSovd.DataBuilder
open OpenSovd.Support OpenSovd.Provider OpenSovd.Responses

/-! ### Resources -/

/-- A read implementation: `toValue` is `serde_json::to_value` at the value type. -/
structure ReadableDataResource (State : Type) where
  Value : Type
  schema : State → Except String Json
  read : State → Except DataError Value
  toValue : Value → Except String Json

/-- A write implementation: `fromValue` is `serde_json::from_value` at the value type. -/
structure WriteableDataResource (State : Type) where
  Value : Type
  schema : State → Except String Json
  fromValue : Json → Except String Value
  write : State → Value → State × Except DataError Unit

/-- A type of resources. Where it implements one trait only, the other half has
an empty value type, and no registration reaches it. -/
structure ResourceType where
  State : Type
  readable : ReadableDataResource State
  writeable : WriteableDataResource State

/-- The adapter around a resource, by the traits it was registered with. -/
inductive Adapter where
  | readOnly
  | writeOnly
  | readWrite
  deriving DecidableEq, Repr

variable {ι : Type} (T : ι → ResourceType)

/-- `Box<dyn DataResourceDyn>`: an adapter around a resource of one of the types. -/
structure DataResourceDyn where
  adapter : Adapter
  impl : ι
  state : (T impl).State

structure ResourceEntry where
  metadata : Metadata
  resource : DataResourceDyn T

inductive BuildError where
  | duplicateResourceId (id : String)
  deriving DecidableEq, Repr

variable {T}

namespace DataResourceDyn

/-- The resource's own read, as JSON. -/
def readValue (self : DataResourceDyn T) : Except DataError Json := do
  let value ← (T self.impl).readable.read self.state
  ((T self.impl).readable.toValue value).mapError .internal

/-- The resource's own write, once the value has its type. -/
def writeValue (self : DataResourceDyn T) (value : Json) :
    DataResourceDyn T × Except DataError Unit :=
  match (T self.impl).writeable.fromValue value with
  | .error message => (self, .error (.internal message))
  | .ok typed =>
    let (state, answer) := (T self.impl).writeable.write self.state typed
    ({ self with state }, answer)

def read (self : DataResourceDyn T) : Except DataError Json :=
  match self.adapter with
  | .readOnly => self.readValue
  | .writeOnly => .error (.internal "resource is write-only")
  | .readWrite => self.readValue

def write (self : DataResourceDyn T) (value : Json) : DataResourceDyn T × Except DataError Unit :=
  match self.adapter with
  | .readOnly => (self, .error .readOnly)
  | .writeOnly => self.writeValue value
  | .readWrite => self.writeValue value

end DataResourceDyn

/-! ### The built provider -/

variable (T) in
/-- The resources in registration order, each under its own id. -/
structure BuiltDataProvider where
  resources : OrderedMap String (ResourceEntry T)
  keyed : ∀ {id entry}, resources.get id = some entry → entry.metadata.id = id

namespace BuiltDataProvider

def empty : BuiltDataProvider T := ⟨.empty, by simp⟩

/-- The entry goes under its own id. -/
def insert (self : BuiltDataProvider T) (entry : ResourceEntry T) : BuiltDataProvider T where
  resources := self.resources.insert entry.metadata.id entry
  keyed := by
    intro id found held
    rw [OrderedMap.get_insert] at held
    split at held
    · rename_i same
      cases held
      exact same.symm
    · exact self.keyed held

def findResource (self : BuiltDataProvider T) (dataId : String) : Option (ResourceEntry T) :=
  self.resources.get dataId

theorem findResource_insert (self : BuiltDataProvider T) (entry : ResourceEntry T) (id : String) :
    (self.insert entry).findResource id =
      if id = entry.metadata.id then some entry else self.findResource id :=
  OrderedMap.get_insert _ _ _ _

/-- Putting an entry back changes nothing. -/
theorem insert_of_findResource {self : BuiltDataProvider T} {entry : ResourceEntry T}
    (held : self.findResource entry.metadata.id = some entry) : self.insert entry = self := by
  obtain ⟨resources, keyed⟩ := self
  simp only [insert, mk.injEq]
  exact OrderedMap.insert_of_get held

def matchesFilter (metadata : Metadata) (filter : DataFilter) : Bool :=
  let scopeOk := match filter.scope with
    | some (.groups gs) => gs.any fun g => metadata.groups.contains g
    | some (.categories cs) => cs.contains metadata.category
    | none => true
  scopeOk && (filter.tags.isEmpty || filter.tags.any fun t => metadata.tags.contains t)

def list (self : BuiltDataProvider T) (filter : DataFilter) : Except DataError (List Metadata) :=
  .ok ((self.resources.values.filter fun r => matchesFilter r.metadata filter).map (·.metadata))

def read (self : BuiltDataProvider T) (dataId : String) (includeSchema : Bool) :
    Except DataError Data :=
  match self.findResource dataId with
  | none => .error (.notFound dataId)
  | some entry => do
    let data ← entry.resource.read
    return ⟨data, if includeSchema then entry.metadata.schema else none⟩

def write (self : BuiltDataProvider T) (dataId : String) (value : Json) :
    BuiltDataProvider T × Except DataError Unit :=
  match self.findResource dataId with
  | none => (self, .error (.notFound dataId))
  | some entry =>
    let (resource, answer) := entry.resource.write value
    (self.insert { entry with resource }, answer)

theorem read_of_find {self : BuiltDataProvider T} {dataId : String} {entry : ResourceEntry T}
    (held : self.findResource dataId = some entry) (includeSchema : Bool) :
    self.read dataId includeSchema = entry.resource.read.map fun data =>
      ⟨data, if includeSchema then entry.metadata.schema else none⟩ := by
  unfold read
  rw [held]
  rfl

theorem read_of_missing {self : BuiltDataProvider T} {dataId : String}
    (missing : self.findResource dataId = none) (includeSchema : Bool) :
    self.read dataId includeSchema = .error (.notFound dataId) := by
  unfold read
  rw [missing]

theorem write_of_find {self : BuiltDataProvider T} {dataId : String} {entry : ResourceEntry T}
    (held : self.findResource dataId = some entry) (value : Json) :
    self.write dataId value =
      (self.insert { entry with resource := (entry.resource.write value).1 },
        (entry.resource.write value).2) := by
  unfold write
  rw [held]

theorem write_of_missing {self : BuiltDataProvider T} {dataId : String}
    (missing : self.findResource dataId = none) (value : Json) :
    self.write dataId value = (self, .error (.notFound dataId)) := by
  unfold write
  rw [missing]

/-- A write changes at most the resource it is addressed to. -/
theorem findResource_write {self : BuiltDataProvider T} {dataId : String} {entry : ResourceEntry T}
    (held : self.findResource dataId = some entry) (value : Json) (probe : String) :
    (self.write dataId value).1.findResource probe =
      if probe = dataId then some { entry with resource := (entry.resource.write value).1 }
      else self.findResource probe := by
  rw [write_of_find held, findResource_insert]
  simp only [self.keyed held]

/-- A write that leaves its resource alone leaves the provider alone. -/
theorem write_unchanged {self : BuiltDataProvider T} {dataId : String} {entry : ResourceEntry T}
    (held : self.findResource dataId = some entry) {value : Json}
    (same : (entry.resource.write value).1 = entry.resource) : (self.write dataId value).1 = self := by
  rw [write_of_find held, same]
  refine insert_of_findResource ?_
  rwa [self.keyed held]

def categories (self : BuiltDataProvider T) : Except DataError (List CategoryInfo) :=
  .ok ((firstOfEach (·.metadata.category) [] self.resources.values).map fun r =>
    ⟨r.metadata.category, r.metadata.translationId⟩)

def groups (self : BuiltDataProvider T) (categoryFilter : Option String) :
    Except DataError (List GroupInfo) :=
  let selected := self.resources.values.filter fun r => categoryFilter.all (r.metadata.category = ·)
  let pairs := selected.flatMap fun r => r.metadata.groups.map fun g => (g, r.metadata.category)
  .ok ((firstOfEach Prod.fst [] pairs).map fun (id, category) => ⟨id, category, none, none, none⟩)

def tags (self : BuiltDataProvider T) : Except DataError (List TagInfo) :=
  .ok ((firstOfEach id [] (self.resources.values.flatMap (·.metadata.tags))).map fun id =>
    ⟨id, none, none⟩)

instance : DataProvider (BuiltDataProvider T) where
  list := list
  read := read
  write := write
  categories := categories
  groups := groups
  tags := tags

end BuiltDataProvider

/-! ### The builder -/

variable (T) in
structure DataProviderBuilder where
  resources : List (ResourceEntry T)

namespace DataProviderBuilder

def new : DataProviderBuilder T := ⟨[]⟩

/-- What the registrations share. A schema that does not serialize is null. -/
def register (self : DataProviderBuilder T) (id name : String) (category : DataCategory)
    (schema : Except String Json) (isReadable isWritable : Bool) (resource : DataResourceDyn T) :
    DataProviderBuilder T where
  resources := self.resources ++ [{
    metadata := {
      id := id
      name := name
      category := category.asStr
      translationId := none
      groups := []
      tags := []
      schema := some (schema.toOption.getD .null)
      isReadable := isReadable
      isWritable := isWritable }
    resource := resource }]

def readData (self : DataProviderBuilder T) (id name : String) (category : DataCategory)
    (impl : ι) (resource : (T impl).State) : DataProviderBuilder T :=
  self.register id name category ((T impl).readable.schema resource) true false
    ⟨.readOnly, impl, resource⟩

def writeData (self : DataProviderBuilder T) (id name : String) (category : DataCategory)
    (impl : ι) (resource : (T impl).State) : DataProviderBuilder T :=
  self.register id name category ((T impl).writeable.schema resource) false true
    ⟨.writeOnly, impl, resource⟩

def data (self : DataProviderBuilder T) (id name : String) (category : DataCategory)
    (impl : ι) (resource : (T impl).State) : DataProviderBuilder T :=
  self.register id name category ((T impl).readable.schema resource) true true
    ⟨.readWrite, impl, resource⟩

/-- `if let Some(last) = self.resources.last_mut()`. -/
def configure (self : DataProviderBuilder T) (change : Metadata → Metadata) :
    DataProviderBuilder T where
  resources := self.resources.modifyLast fun last => { last with metadata := change last.metadata }

def groups (self : DataProviderBuilder T) (groups : List String) : DataProviderBuilder T :=
  self.configure fun metadata => { metadata with groups }

def tags (self : DataProviderBuilder T) (tags : List String) : DataProviderBuilder T :=
  self.configure fun metadata => { metadata with tags }

def translationId (self : DataProviderBuilder T) (id : String) : DataProviderBuilder T :=
  self.configure fun metadata => { metadata with translationId := some id }

def schema (self : DataProviderBuilder T) (schema : Json) : DataProviderBuilder T :=
  self.configure fun metadata => { metadata with schema := some schema }

/-- The loop of `build`: an insert that displaces an entry ends it. -/
def insertAll (provider : BuiltDataProvider T) :
    List (ResourceEntry T) → Except BuildError (BuiltDataProvider T)
  | [] => .ok provider
  | entry :: rest =>
    if (provider.findResource entry.metadata.id).isSome then
      .error (.duplicateResourceId entry.metadata.id)
    else insertAll (provider.insert entry) rest

def build (self : DataProviderBuilder T) : Except BuildError (BuiltDataProvider T) :=
  insertAll .empty self.resources

end DataProviderBuilder

variable (T) in
/-- One call on a builder. -/
inductive BuilderCall where
  | readData (id name : String) (category : DataCategory) (impl : ι) (resource : (T impl).State)
  | writeData (id name : String) (category : DataCategory) (impl : ι) (resource : (T impl).State)
  | data (id name : String) (category : DataCategory) (impl : ι) (resource : (T impl).State)
  | groups (groups : List String)
  | tags (tags : List String)
  | translationId (id : String)
  | schema (schema : Json)

namespace DataProviderBuilder

def perform (self : DataProviderBuilder T) : BuilderCall T → DataProviderBuilder T
  | .readData id name category impl resource => self.readData id name category impl resource
  | .writeData id name category impl resource => self.writeData id name category impl resource
  | .data id name category impl resource => self.data id name category impl resource
  | .groups groups => self.groups groups
  | .tags tags => self.tags tags
  | .translationId id => self.translationId id
  | .schema schema => self.schema schema

/-- The builder after a chain of calls on a new one. -/
def after (calls : List (BuilderCall T)) : DataProviderBuilder T := calls.foldl perform new

end DataProviderBuilder
end OpenSovd.DataBuilder
