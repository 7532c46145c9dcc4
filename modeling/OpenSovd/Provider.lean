import Mathlib.Data.List.Basic

/-! The data backend behind an entity: what a provider lists, reads and writes,
and the facets the trait derives from its listing. A provider's methods take
`&self` over interior state, so a write hands the changed provider back. -/
namespace OpenSovd.Provider

/-- `serde_json::Value`; a number is `digits / 10 ^ scale`. -/
inductive Json where
  | null
  | bool (value : Bool)
  | number (digits : Int) (scale : Nat)
  | string (text : String)
  | array (items : List Json)
  | object (fields : List (String × Json))

/-- The mutually exclusive scope of a data query. -/
inductive DataScope where
  | groups (ids : List String)
  | categories (names : List String)
  deriving DecidableEq, Repr

structure DataFilter where
  scope : Option DataScope := none
  tags : List String := []
  deriving DecidableEq, Repr

structure Metadata where
  id : String
  name : String
  category : String
  translationId : Option String
  groups : List String
  tags : List String
  schema : Option Json
  isReadable : Bool
  isWritable : Bool

structure Data where
  data : Json
  schema : Option Json

inductive DataError where
  | notFound (id : String)
  | readOnly
  | internal (message : String)
  deriving DecidableEq, Repr

structure CategoryInfo where
  category : String
  translationId : Option String
  deriving DecidableEq, Repr

structure GroupInfo where
  id : String
  category : String
  categoryTranslationId : Option String
  group : Option String
  groupTranslationId : Option String
  deriving DecidableEq, Repr

structure TagInfo where
  id : String
  description : Option String
  translationId : Option String
  deriving DecidableEq, Repr

/-- `filter(|x| seen.insert(key(x)))`: the first item of every key, in order. -/
def firstOfEach {α κ : Type} [DecidableEq κ] (key : α → κ) : List κ → List α → List α
  | _, [] => []
  | seen, item :: rest =>
    if key item ∈ seen then firstOfEach key seen rest
    else item :: firstOfEach key (key item :: seen) rest

/-- The default `categories()`, computed from the unfiltered listing. -/
def categoriesOf (all : List Metadata) : List CategoryInfo :=
  (firstOfEach (·.category) [] all).map fun m => ⟨m.category, m.translationId⟩

/-- The default `groups(category_filter)`. -/
def groupsOf (all : List Metadata) (categoryFilter : Option String) : List GroupInfo :=
  let selected := all.filter fun m => categoryFilter.all (m.category = ·)
  let pairs := selected.flatMap fun m => m.groups.map fun g => (g, m.category)
  (firstOfEach Prod.fst [] pairs).map fun (id, category) => ⟨id, category, none, none, none⟩

/-- The default `tags()`. -/
def tagsOf (all : List Metadata) : List TagInfo :=
  (firstOfEach id [] (all.flatMap (·.tags))).map fun tag => ⟨tag, none, none⟩

/-- The trait, with its default facet methods as default fields. -/
class DataProvider (P : Type) where
  list : P → DataFilter → Except DataError (List Metadata)
  read : P → String → Bool → Except DataError Data
  write : P → String → Json → P × Except DataError Unit
  categories : P → Except DataError (List CategoryInfo) :=
    fun provider => (list provider {}).map categoriesOf
  groups : P → Option String → Except DataError (List GroupInfo) :=
    fun provider category => (list provider {}).map (groupsOf · category)
  tags : P → Except DataError (List TagInfo) :=
    fun provider => (list provider {}).map tagsOf

/-- A provider that lists fixed data and serves none of it. -/
structure FixedListing where
  items : List Metadata

instance : DataProvider FixedListing where
  list provider _ := .ok provider.items
  read _ id _ := .error (.notFound id)
  write provider id _ := (provider, .error (.notFound id))

end OpenSovd.Provider
