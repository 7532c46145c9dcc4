import OpenSovd.Provider
import OpenSovd.Topology

/-! What a handler answers: the models of the response bodies, and the handler
error with the status and the body it turns into. Fields that no handler sets
keep their default. -/
namespace OpenSovd.Responses
open OpenSovd.Support OpenSovd.Provider OpenSovd.Entity OpenSovd.Topology

inductive ErrorCode where
  | errorResponse
  | incompleteRequest
  | insufficientAccessRights
  | invalidResponseContent
  | invalidSignature
  | lockBroken
  | notResponding
  | preconditionNotFulfilled
  | sovdServerFailure
  | sovdServerMisconfigured
  | updateAutomatedNotSupported
  | updateExecutionInProgress
  | updatePreparationInProgress
  | updateProcessInProgress
  | vendorSpecific
  deriving DecidableEq, Repr

/-- The kebab-case name it is serialised under. -/
def ErrorCode.asStr : ErrorCode → String
  | .errorResponse => "error-response"
  | .incompleteRequest => "incomplete-request"
  | .insufficientAccessRights => "insufficient-access-rights"
  | .invalidResponseContent => "invalid-response-content"
  | .invalidSignature => "invalid-signature"
  | .lockBroken => "lock-broken"
  | .notResponding => "not-responding"
  | .preconditionNotFulfilled => "precondition-not-fulfilled"
  | .sovdServerFailure => "sovd-server-failure"
  | .sovdServerMisconfigured => "sovd-server-misconfigured"
  | .updateAutomatedNotSupported => "update-automated-not-supported"
  | .updateExecutionInProgress => "update-execution-in-progress"
  | .updatePreparationInProgress => "update-preparation-in-progress"
  | .updateProcessInProgress => "update-process-in-progress"
  | .vendorSpecific => "vendor-specific"

structure GenericError where
  errorCode : ErrorCode
  vendorCode : Option String := none
  message : String
  translationId : Option String := none
  parameters : Option Json := none

def GenericError.new (errorCode : ErrorCode) (message : String) : GenericError :=
  { errorCode, message }

def GenericError.withVendorCode (vendorCode message : String) : GenericError :=
  { errorCode := .vendorSpecific, vendorCode := some vendorCode, message }

/-- Fields that are not set are left out. -/
def GenericError.toJson (error : GenericError) : Json :=
  .object <| [("error_code", Json.string error.errorCode.asStr)]
    ++ (error.vendorCode.map fun code => ("vendor_code", Json.string code)).toList
    ++ [("message", .string error.message)]
    ++ (error.translationId.map fun id => ("translation_id", Json.string id)).toList
    ++ (error.parameters.map fun parameters => ("parameters", parameters)).toList

/-- A response with a payload, and its schema if it was asked for. -/
structure Response (α : Type) where
  data : α
  schema : Option Json

structure Items (α : Type) where
  items : List α

structure EntityReference where
  id : String
  name : String
  translationId : Option String
  href : String
  tags : Option (List String)

abbrev Entities := Items EntityReference

structure EntityCapabilities where
  id : String
  name : String
  translationId : Option String := none
  variant : Option (OrderedMap String String) := none
  configurations : Option String := none
  bulkData : Option String := none
  data : Option String := none
  dataLists : Option String := none
  faults : Option String := none
  operations : Option String := none
  updates : Option String := none
  modes : Option String := none
  areas : Option String := none
  components : Option String := none
  apps : Option String := none
  functions : Option String := none
  subcomponents : Option String := none
  subareas : Option String := none
  locks : Option String := none
  logs : Option String := none
  belongsTo : Option String := none
  contains : Option String := none
  communicationLogs : Option String := none
  cyclicSubscriptions : Option String := none
  dependsOn : Option String := none
  hosts : Option String := none
  isLocatedOn : Option String := none
  scripts : Option String := none
  triggers : Option String := none

/-- Every URI reference among the fields. -/
def EntityCapabilities.uris (c : EntityCapabilities) : List String :=
  [c.configurations, c.bulkData, c.data, c.dataLists, c.faults, c.operations, c.updates, c.modes,
    c.areas, c.components, c.apps, c.functions, c.subcomponents, c.subareas, c.locks, c.logs,
    c.belongsTo, c.contains, c.communicationLogs, c.cyclicSubscriptions, c.dependsOn, c.hosts,
    c.isLocatedOn, c.scripts, c.triggers].filterMap fun uri => uri

inductive DataCategory where
  | identData
  | currentData
  | storedData
  | sysInfo
  | custom (name : String)
  deriving DecidableEq, Repr

def DataCategory.ofString (name : String) : DataCategory :=
  if name = "identData" then .identData
  else if name = "currentData" then .currentData
  else if name = "storedData" then .storedData
  else if name = "sysInfo" then .sysInfo
  else .custom name

def DataCategory.asStr : DataCategory → String
  | .identData => "identData"
  | .currentData => "currentData"
  | .storedData => "storedData"
  | .sysInfo => "sysInfo"
  | .custom name => name

/-- One entry of a data list. -/
structure DataMetadata where
  id : String
  name : String
  category : DataCategory
  translationId : Option String
  groups : Option (List String)
  tags : Option (List String)

abbrev DataList := Items DataMetadata

structure DataCategoryInformation where
  item : DataCategory
  categoryTranslationId : Option String

abbrev DataCategories := Items DataCategoryInformation

structure Group where
  id : String
  category : DataCategory
  categoryTranslationId : Option String
  group : Option String
  groupTranslationId : Option String

abbrev DataGroups := Items Group

structure DataErrorEntry where
  path : String
  error : GenericError

structure ReadResponse where
  id : String
  data : Json
  errors : Option (List DataErrorEntry) := none
  schema : Option Json

/-! ### Handler errors -/

inductive Error where
  | entityNotFound (id : String)
  | providerNotAvailable (provider : String)
  | data (error : DataError)
  | badQuery
  | topology (error : TopologyError)
  deriving DecidableEq, Repr

/-- `Display` of a data error. -/
def dataErrorText : DataError → String
  | .notFound id => "not found: " ++ id
  | .readOnly => "read only"
  | .internal message => "internal error: " ++ message

def kindText : EntityKind → String
  | .component => "component"
  | .app => "app"
  | .area => "area"

/-- `Display` of a topology error. -/
def topologyErrorText : TopologyError → String
  | .notFound entityRef => kindText entityRef.kind ++ " '" ++ entityRef.id ++ "' not found"

/-- The status and the body of an error. The text of an internal error is only
logged. -/
def Error.intoResponse : Error → Nat × GenericError
  | .entityNotFound id => (404, .withVendorCode "entity-not-found" ("Entity not found: " ++ id))
  | .providerNotAvailable provider =>
    (404, .withVendorCode "provider-not-available" ("Component has no " ++ provider))
  | .data (.internal _) => (500, .new .errorResponse "An internal error occurred")
  | .data .readOnly => (400, .new .errorResponse (dataErrorText .readOnly))
  | .data (.notFound id) => (404, .new .errorResponse (dataErrorText (.notFound id)))
  | .badQuery => (400, .new .incompleteRequest "Bad request")
  | .topology error => (404, .new .errorResponse (topologyErrorText error))

end OpenSovd.Responses
