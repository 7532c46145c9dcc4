import OpenSovd.DataRequests
import OpenSovd.Support.Records
import OpenSovd.Versions

/-! The bodies of requests and responses as JSON documents. Every type is written
with its fields in order, without those that are `None`, and read back by name;
an array is taken for the fields in order. A response puts the schema behind the
fields of its payload, and is an object in any case. -/
namespace OpenSovd.Wire
open OpenSovd.Support OpenSovd.Support.Records OpenSovd.Provider OpenSovd.Responses
open OpenSovd.Versions OpenSovd.DataRequests

/-! ### Values -/

def string : Json → Option String
  | .string text => some text
  | _ => none

/-- `Option<T>`: null is no value. -/
def nullable {α : Type} (read : Json → Option α) : Json → Option (Option α)
  | .null => some none
  | json => (read json).map some

/-- `Option<Value>`. -/
def anyValue : Json → Option (Option Json) := nullable some

def array {α : Type} (read : Json → Option α) : Json → Option (List α)
  | .array items => items.mapM read
  | _ => none

/-- `HashMap<String, String>`: a key that comes again replaces the value. -/
def stringMap : Json → Option (OrderedMap String String)
  | .object fields =>
    fields.foldlM (fun map field => (string field.2).map (map.insert field.1)) .empty
  | _ => none

/-- An enum of unit variants: its name, alone or as the key of a null. -/
def unitVariant {α : Type} (ofName : String → Option α) : Json → Option α
  | .string name => ofName name
  | .object [(name, .null)] => ofName name
  | _ => none

/-- A struct. -/
def record {α : Type} (format : Format Json α) : Json → Option α
  | .object fields => format.read (.named fields)
  | .array items =>
    if items.length = format.names.length then format.read (.positional items) else none
  | _ => none

def recordJson {α : Type} (format : Format Json α) (value : α) : Json :=
  .object (format.fields value)

/-! ### Enumerations -/

def ErrorCode.all : List ErrorCode :=
  [.errorResponse, .incompleteRequest, .insufficientAccessRights, .invalidResponseContent,
    .invalidSignature, .lockBroken, .notResponding, .preconditionNotFulfilled, .sovdServerFailure,
    .sovdServerMisconfigured, .updateAutomatedNotSupported, .updateExecutionInProgress,
    .updatePreparationInProgress, .updateProcessInProgress, .vendorSpecific]

def ErrorCode.fromJson : Json → Option ErrorCode :=
  unitVariant fun name => ErrorCode.all.find? fun code => code.asStr = name

/-- The four known categories. -/
def DataCategory.known (name : String) : Option DataCategory :=
  match DataCategory.ofString name with
  | .custom _ => none
  | category => some category

/-- The tagged variants are tried first; any other text is a custom category. -/
def DataCategory.fromJson (json : Json) : Option DataCategory :=
  unitVariant DataCategory.known json <|> (string json).map .custom

/-! ### Errors -/

def genericError : Format Json GenericError where
  names := ["error_code", "vendor_code", "message", "translation_id", "parameters"]
  slots error := [
    ("error_code", some (.string error.errorCode.asStr)),
    ("vendor_code", error.vendorCode.map .string),
    ("message", some (.string error.message)),
    ("translation_id", error.translationId.map .string),
    ("parameters", error.parameters)]
  read source := do return {
    errorCode := ← source.required 0 "error_code" ErrorCode.fromJson
    vendorCode := ← source.optional 1 "vendor_code" (nullable string)
    message := ← source.required 2 "message" string
    translationId := ← source.optional 3 "translation_id" (nullable string)
    parameters := ← source.optional 4 "parameters" anyValue }
  slots_names _ := rfl
  distinct := by simp

def dataErrorEntry : Format Json DataErrorEntry where
  names := ["path", "error"]
  slots entry := [
    ("path", some (.string entry.path)),
    ("error", some (recordJson genericError entry.error))]
  read source := do return {
    path := ← source.required 0 "path" string
    error := ← source.required 1 "error" (record genericError) }
  slots_names _ := rfl
  distinct := by simp

/-! ### Entities -/

def entityReference : Format Json EntityReference where
  names := ["id", "name", "translation_id", "href", "tags"]
  slots entity := [
    ("id", some (.string entity.id)),
    ("name", some (.string entity.name)),
    ("translation_id", entity.translationId.map .string),
    ("href", some (.string entity.href)),
    ("tags", entity.tags.map fun tags => .array (tags.map .string))]
  read source := do return {
    id := ← source.required 0 "id" string
    name := ← source.required 1 "name" string
    translationId := ← source.optional 2 "translation_id" (nullable string)
    href := ← source.required 3 "href" string
    tags := ← source.optional 4 "tags" (nullable (array string)) }
  slots_names _ := rfl
  distinct := by simp

def items {α : Type} (item : Format Json α) : Format Json (Items α) where
  names := ["items"]
  slots list := [("items", some (.array (list.items.map (recordJson item))))]
  read source := do return { items := ← source.required 0 "items" (array (record item)) }
  slots_names _ := rfl
  distinct := by simp

def variantJson (variant : OrderedMap String String) : Json :=
  .object (variant.entries.map fun entry => (entry.1, .string entry.2))

def entityCapabilities : Format Json EntityCapabilities where
  names := ["id", "name", "translation_id", "variant", "configurations", "bulk-data", "data",
    "data-lists", "faults", "operations", "updates", "modes", "areas", "components", "apps",
    "functions", "subcomponents", "subareas", "locks", "logs", "belongs-to", "contains",
    "communication-logs", "cyclic-subscriptions", "depends-on", "hosts", "is-located-on",
    "scripts", "triggers"]
  slots c := [
    ("id", some (.string c.id)),
    ("name", some (.string c.name)),
    ("translation_id", c.translationId.map .string),
    ("variant", c.variant.map variantJson),
    ("configurations", c.configurations.map .string),
    ("bulk-data", c.bulkData.map .string),
    ("data", c.data.map .string),
    ("data-lists", c.dataLists.map .string),
    ("faults", c.faults.map .string),
    ("operations", c.operations.map .string),
    ("updates", c.updates.map .string),
    ("modes", c.modes.map .string),
    ("areas", c.areas.map .string),
    ("components", c.components.map .string),
    ("apps", c.apps.map .string),
    ("functions", c.functions.map .string),
    ("subcomponents", c.subcomponents.map .string),
    ("subareas", c.subareas.map .string),
    ("locks", c.locks.map .string),
    ("logs", c.logs.map .string),
    ("belongs-to", c.belongsTo.map .string),
    ("contains", c.contains.map .string),
    ("communication-logs", c.communicationLogs.map .string),
    ("cyclic-subscriptions", c.cyclicSubscriptions.map .string),
    ("depends-on", c.dependsOn.map .string),
    ("hosts", c.hosts.map .string),
    ("is-located-on", c.isLocatedOn.map .string),
    ("scripts", c.scripts.map .string),
    ("triggers", c.triggers.map .string)]
  read source := do return {
    id := ← source.required 0 "id" string
    name := ← source.required 1 "name" string
    translationId := ← source.optional 2 "translation_id" (nullable string)
    variant := ← source.optional 3 "variant" (nullable stringMap)
    configurations := ← source.optional 4 "configurations" (nullable string)
    bulkData := ← source.optional 5 "bulk-data" (nullable string)
    data := ← source.optional 6 "data" (nullable string)
    dataLists := ← source.optional 7 "data-lists" (nullable string)
    faults := ← source.optional 8 "faults" (nullable string)
    operations := ← source.optional 9 "operations" (nullable string)
    updates := ← source.optional 10 "updates" (nullable string)
    modes := ← source.optional 11 "modes" (nullable string)
    areas := ← source.optional 12 "areas" (nullable string)
    components := ← source.optional 13 "components" (nullable string)
    apps := ← source.optional 14 "apps" (nullable string)
    functions := ← source.optional 15 "functions" (nullable string)
    subcomponents := ← source.optional 16 "subcomponents" (nullable string)
    subareas := ← source.optional 17 "subareas" (nullable string)
    locks := ← source.optional 18 "locks" (nullable string)
    logs := ← source.optional 19 "logs" (nullable string)
    belongsTo := ← source.optional 20 "belongs-to" (nullable string)
    contains := ← source.optional 21 "contains" (nullable string)
    communicationLogs := ← source.optional 22 "communication-logs" (nullable string)
    cyclicSubscriptions := ← source.optional 23 "cyclic-subscriptions" (nullable string)
    dependsOn := ← source.optional 24 "depends-on" (nullable string)
    hosts := ← source.optional 25 "hosts" (nullable string)
    isLocatedOn := ← source.optional 26 "is-located-on" (nullable string)
    scripts := ← source.optional 27 "scripts" (nullable string)
    triggers := ← source.optional 28 "triggers" (nullable string) }
  slots_names _ := rfl
  distinct := by simp

/-! ### Data -/

def dataMetadata : Format Json DataMetadata where
  names := ["id", "name", "category", "translation_id", "groups", "tags"]
  slots m := [
    ("id", some (.string m.id)),
    ("name", some (.string m.name)),
    ("category", some (.string m.category.asStr)),
    ("translation_id", m.translationId.map .string),
    ("groups", m.groups.map fun groups => .array (groups.map .string)),
    ("tags", m.tags.map fun tags => .array (tags.map .string))]
  read source := do return {
    id := ← source.required 0 "id" string
    name := ← source.required 1 "name" string
    category := ← source.required 2 "category" DataCategory.fromJson
    translationId := ← source.optional 3 "translation_id" (nullable string)
    groups := ← source.optional 4 "groups" (nullable (array string))
    tags := ← source.optional 5 "tags" (nullable (array string)) }
  slots_names _ := rfl
  distinct := by simp

def dataCategoryInformation : Format Json DataCategoryInformation where
  names := ["item", "category_translation_id"]
  slots c := [
    ("item", some (.string c.item.asStr)),
    ("category_translation_id", c.categoryTranslationId.map .string)]
  read source := do return {
    item := ← source.required 0 "item" DataCategory.fromJson
    categoryTranslationId := ← source.optional 1 "category_translation_id" (nullable string) }
  slots_names _ := rfl
  distinct := by simp

def group : Format Json Group where
  names := ["id", "category", "category_translation_id", "group", "group_translation_id"]
  slots g := [
    ("id", some (.string g.id)),
    ("category", some (.string g.category.asStr)),
    ("category_translation_id", g.categoryTranslationId.map .string),
    ("group", g.group.map .string),
    ("group_translation_id", g.groupTranslationId.map .string)]
  read source := do return {
    id := ← source.required 0 "id" string
    category := ← source.required 1 "category" DataCategory.fromJson
    categoryTranslationId := ← source.optional 2 "category_translation_id" (nullable string)
    group := ← source.optional 3 "group" (nullable string)
    groupTranslationId := ← source.optional 4 "group_translation_id" (nullable string) }
  slots_names _ := rfl
  distinct := by simp

def readResponse : Format Json ReadResponse where
  names := ["id", "data", "errors", "schema"]
  slots r := [
    ("id", some (.string r.id)),
    ("data", some r.data),
    ("errors", r.errors.map fun errors => .array (errors.map (recordJson dataErrorEntry))),
    ("schema", r.schema)]
  read source := do return {
    id := ← source.required 0 "id" string
    data := ← source.required 1 "data" some
    errors := ← source.optional 2 "errors" (nullable (array (record dataErrorEntry)))
    schema := ← source.optional 3 "schema" anyValue }
  slots_names _ := rfl
  distinct := by simp

/-- What `Deserialize` makes of it is `WriteRequest.fromJson`. -/
def WriteRequest.toJson (request : WriteRequest) : Json :=
  .object (written [("data", some request.data), ("signature", request.signature.map .string)])

/-! ### Versions -/

def sovdInfo : Format Json (SovdInfo Json) where
  names := ["version", "base_uri", "vendor_info"]
  slots info := [
    ("version", some (.string info.version)),
    ("base_uri", some (.string info.baseUri)),
    ("vendor_info", info.vendorInfo)]
  read source := do return {
    version := ← source.required 0 "version" string
    baseUri := ← source.required 1 "base_uri" string
    vendorInfo := ← source.optional 2 "vendor_info" anyValue }
  slots_names _ := rfl
  distinct := by simp

def versionInfo : Format Json (VersionInfo Json) where
  names := ["sovd_info"]
  slots info := [("sovd_info", some (.array (info.sovdInfo.map (recordJson sovdInfo))))]
  read source := do return {
    sovdInfo := ← source.required 0 "sovd_info" (array (record sovdInfo)) }
  slots_names _ := rfl
  distinct := by simp

/-! ### Responses -/

/-- `Response<T>`: the payload's fields, then the schema. -/
def responseJson {α : Type} (format : Format Json α) (response : Response α) : Json :=
  .object (written (format.slots response.data ++ [("schema", response.schema)]))

/-- The payload is read from all other fields; a flattened struct is no array. -/
def response {α : Type} (format : Format Json α) : Json → Option (Response α)
  | .object fields => do
    let schema ← (Source.named fields).optional 0 "schema" anyValue
    let data ← format.read (.named (fields.filter fun field => field.1 ≠ "schema"))
    return ⟨data, schema⟩
  | _ => none

end OpenSovd.Wire
