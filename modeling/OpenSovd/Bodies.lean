import OpenSovd.WireProofs

/-! All bodies of answers together. A body is read back as it was exactly when it
is plain: no JSON value in it is null where it could be absent, and no custom
category has a known name. Only plain bodies are ever read. -/
namespace OpenSovd.Bodies
open OpenSovd.Support.Records OpenSovd.Provider OpenSovd.Responses OpenSovd.Handlers
open OpenSovd.Versions (SovdInfo VersionInfo)
open OpenSovd.Wire OpenSovd.WireProofs

inductive Body where
  | error (cause : GenericError)
  | payload (payload : Payload)
  | versionInfo (response : Response (VersionInfo Json))

/-- The type a reader asks for. -/
inductive BodyType where
  | error
  | capabilities
  | entities
  | dataCategories
  | dataGroups
  | dataList
  | read
  | versionInfo
  deriving DecidableEq, Repr

def payloadType : Payload → BodyType
  | .capabilities _ => .capabilities
  | .entities _ => .entities
  | .dataCategories _ => .dataCategories
  | .dataGroups _ => .dataGroups
  | .dataList _ => .dataList
  | .read _ => .read

def Body.type : Body → BodyType
  | .error _ => .error
  | .payload answer => payloadType answer
  | .versionInfo _ => .versionInfo

def payloadJson : Payload → Json
  | .capabilities response => responseJson entityCapabilities response
  | .entities response => responseJson (items entityReference) response
  | .dataCategories response => responseJson (items dataCategoryInformation) response
  | .dataGroups response => responseJson (items group) response
  | .dataList response => responseJson (items dataMetadata) response
  | .read response => recordJson readResponse response

def Body.toJson : Body → Json
  | .error cause => recordJson genericError cause
  | .payload answer => payloadJson answer
  | .versionInfo response => responseJson Wire.versionInfo response

def BodyType.fromJson (type : BodyType) (json : Json) : Option Body :=
  match type with
  | .error => (record genericError json).map .error
  | .capabilities => (response entityCapabilities json).map fun r => .payload (.capabilities r)
  | .entities => (response (items entityReference) json).map fun r => .payload (.entities r)
  | .dataCategories =>
    (response (items dataCategoryInformation) json).map fun r => .payload (.dataCategories r)
  | .dataGroups => (response (items group) json).map fun r => .payload (.dataGroups r)
  | .dataList => (response (items dataMetadata) json).map fun r => .payload (.dataList r)
  | .read => (record readResponse json).map fun r => .payload (.read r)
  | .versionInfo => (response Wire.versionInfo json).map .versionInfo

def settlePayload : Payload → Payload
  | .capabilities response => .capabilities (settleResponse id response)
  | .entities response => .entities (settleResponse (settleItems id) response)
  | .dataCategories response =>
    .dataCategories (settleResponse (settleItems settleCategoryInformation) response)
  | .dataGroups response => .dataGroups (settleResponse (settleItems settleGroup) response)
  | .dataList response => .dataList (settleResponse (settleItems settleMetadata) response)
  | .read response => .read (settleReadResponse response)

def Body.settle : Body → Body
  | .error cause => .error (settleGenericError cause)
  | .payload answer => .payload (settlePayload answer)
  | .versionInfo response => .versionInfo (settleResponse settleVersionInfo response)

/-! ### Plain bodies -/

/-- Absent, or there and not null. -/
def PlainValue (value : Option Json) : Prop := value ≠ some .null

def knownNames : List String := ["identData", "currentData", "storedData", "sysInfo"]

def PlainCategory (category : DataCategory) : Prop :=
  ∀ name, category = .custom name → name ∉ knownNames

def PlainReadResponse (r : ReadResponse) : Prop :=
  PlainValue r.schema ∧ ∀ errors, r.errors = some errors →
    ∀ entry ∈ errors, PlainValue entry.error.parameters

def PlainPayload : Payload → Prop
  | .capabilities response => PlainValue response.schema
  | .entities response => PlainValue response.schema
  | .dataCategories response =>
    PlainValue response.schema ∧ ∀ c ∈ response.data.items, PlainCategory c.item
  | .dataGroups response =>
    PlainValue response.schema ∧ ∀ g ∈ response.data.items, PlainCategory g.category
  | .dataList response =>
    PlainValue response.schema ∧ ∀ m ∈ response.data.items, PlainCategory m.category
  | .read response => PlainReadResponse response

def Body.Plain : Body → Prop
  | .error cause => PlainValue cause.parameters
  | .payload answer => PlainPayload answer
  | .versionInfo response =>
    PlainValue response.schema ∧ ∀ info ∈ response.data.sovdInfo, PlainValue info.vendorInfo

theorem settleValue_iff {value : Option Json} : settleValue value = value ↔ PlainValue value := by
  unfold settleValue PlainValue
  split <;> simp_all

theorem settleCategory_iff {category : DataCategory} :
    settleCategory category = category ↔ PlainCategory category := by
  cases category with
  | custom name =>
    have text : DataCategory.asStr (.custom name) = name := rfl
    simp only [settleCategory, PlainCategory, text, DataCategory.custom.injEq, forall_eq', knownNames,
      DataCategory.ofString]
    split_ifs <;> simp_all
  | _ =>
    refine iff_of_true rfl ?_
    intro name same
    cases same

section Responses
variable {α : Type} {settle : α → α} {response : Response α}

theorem settleResponse_iff : settleResponse settle response = response ↔
    settle response.data = response.data ∧ PlainValue response.schema := by
  obtain ⟨data, schema⟩ := response
  simp only [settleResponse, Response.mk.injEq, settleValue_iff]

theorem settleItems_iff {list : Items α} :
    settleItems settle list = list ↔ ∀ item ∈ list.items, settle item = item := by
  obtain ⟨items⟩ := list
  simp only [settleItems, Items.mk.injEq, map_eq_self_iff]

end Responses

theorem settleMetadata_iff {m : DataMetadata} : settleMetadata m = m ↔ PlainCategory m.category := by
  cases m
  simp [settleMetadata, settleCategory_iff]

theorem settleCategoryInformation_iff {c : DataCategoryInformation} :
    settleCategoryInformation c = c ↔ PlainCategory c.item := by
  cases c
  simp [settleCategoryInformation, settleCategory_iff]

theorem settleGroup_iff {g : Group} : settleGroup g = g ↔ PlainCategory g.category := by
  cases g
  simp [settleGroup, settleCategory_iff]

theorem settleGenericError_iff {error : GenericError} :
    settleGenericError error = error ↔ PlainValue error.parameters := by
  cases error
  simp [settleGenericError, settleValue_iff]

theorem settleErrorEntry_iff {entry : DataErrorEntry} :
    settleErrorEntry entry = entry ↔ PlainValue entry.error.parameters := by
  obtain ⟨path, error⟩ := entry
  simp only [settleErrorEntry, DataErrorEntry.mk.injEq, true_and, settleGenericError_iff]

theorem settleReadResponse_iff {r : ReadResponse} :
    settleReadResponse r = r ↔ PlainReadResponse r := by
  obtain ⟨id, data, errors, schema⟩ := r
  have entries : errors.map (List.map settleErrorEntry) = errors ↔
      ∀ entries, errors = some entries → ∀ entry ∈ entries, PlainValue entry.error.parameters := by
    cases errors with
    | none => simp
    | some entries => simp [map_eq_self_iff, settleErrorEntry_iff]
  simp only [settleReadResponse, ReadResponse.mk.injEq, true_and, settleValue_iff, entries,
    PlainReadResponse, and_comm]

theorem settleSovdInfo_iff {info : SovdInfo Json} :
    settleSovdInfo info = info ↔ PlainValue info.vendorInfo := by
  cases info
  simp [settleSovdInfo, settleValue_iff]

theorem settleVersionInfo_iff {info : VersionInfo Json} :
    settleVersionInfo info = info ↔ ∀ i ∈ info.sovdInfo, PlainValue i.vendorInfo := by
  cases info
  simp [settleVersionInfo, map_eq_self_iff, settleSovdInfo_iff]

theorem settlePayload_iff {payload : Payload} :
    settlePayload payload = payload ↔ PlainPayload payload := by
  cases payload with
  | capabilities response => simp [settlePayload, PlainPayload, settleResponse_iff]
  | entities response => simp [settlePayload, PlainPayload, settleResponse_iff, settleItems_iff]
  | dataCategories response =>
    simp [settlePayload, PlainPayload, settleResponse_iff, settleItems_iff,
      settleCategoryInformation_iff, and_comm]
  | dataGroups response =>
    simp [settlePayload, PlainPayload, settleResponse_iff, settleItems_iff, settleGroup_iff,
      and_comm]
  | dataList response =>
    simp [settlePayload, PlainPayload, settleResponse_iff, settleItems_iff, settleMetadata_iff,
      and_comm]
  | read response => simp [settlePayload, PlainPayload, settleReadResponse_iff]

/-- The plain bodies are those the trip leaves as they are. -/
theorem settle_iff {body : Body} : body.settle = body ↔ body.Plain := by
  cases body with
  | error cause => simp [Body.settle, Body.Plain, settleGenericError_iff]
  | payload answer => simp [Body.settle, Body.Plain, settlePayload_iff]
  | versionInfo response =>
    simp [Body.settle, Body.Plain, settleResponse_iff, settleVersionInfo_iff, and_comm]

/-! ### There and back -/

theorem payload_reads (payload : Payload) :
    (payloadType payload).fromJson (payloadJson payload) =
      some (.payload (settlePayload payload)) := by
  cases payload with
  | capabilities value =>
    have foreign : "schema" ∉ entityCapabilities.names := by
      simp only [entityCapabilities, List.mem_cons, String.reduceEq, List.not_mem_nil, or_false,
        not_false_iff]
    exact congrArg (Option.map _) (response_settles entityCapabilities_settles foreign value)
  | entities value =>
    exact congrArg (Option.map _)
      (response_settles (items_settles entityReference_settles) (by simp [items]) value)
  | dataCategories value =>
    exact congrArg (Option.map _)
      (response_settles (items_settles dataCategoryInformation_settles) (by simp [items]) value)
  | dataGroups value =>
    exact congrArg (Option.map _)
      (response_settles (items_settles group_settles) (by simp [items]) value)
  | dataList value =>
    exact congrArg (Option.map _)
      (response_settles (items_settles dataMetadata_settles) (by simp [items]) value)
  | read value => exact congrArg (Option.map _) (record_settles readResponse_settles value)

theorem body_reads (body : Body) : body.type.fromJson body.toJson = some body.settle := by
  cases body with
  | error cause => exact congrArg (Option.map _) (record_settles genericError_settles cause)
  | payload answer => exact payload_reads answer
  | versionInfo value =>
    exact congrArg (Option.map _)
      (response_settles versionInfo_settles (by simp [Wire.versionInfo]) value)

/-- Whatever a reader accepts, it makes a settled body of. -/
theorem fromJson_settled {type : BodyType} {json : Json} {body : Body}
    (read : type.fromJson json = some body) : body.type = type ∧ body.settle = body := by
  cases type with
  | error =>
    obtain ⟨value, held, rfl⟩ := Option.map_eq_some_iff.mp read
    exact ⟨rfl, congrArg Body.error (record_stable genericError_stable held)⟩
  | capabilities =>
    obtain ⟨value, held, rfl⟩ := Option.map_eq_some_iff.mp read
    have same := response_stable (id_stable entityCapabilities) held
    exact ⟨rfl, by rw [Body.settle, settlePayload, same]⟩
  | entities =>
    obtain ⟨value, held, rfl⟩ := Option.map_eq_some_iff.mp read
    have same := response_stable (items_stable (id_stable entityReference)) held
    exact ⟨rfl, by rw [Body.settle, settlePayload, same]⟩
  | dataCategories =>
    obtain ⟨value, held, rfl⟩ := Option.map_eq_some_iff.mp read
    have same := response_stable (items_stable dataCategoryInformation_stable) held
    exact ⟨rfl, by rw [Body.settle, settlePayload, same]⟩
  | dataGroups =>
    obtain ⟨value, held, rfl⟩ := Option.map_eq_some_iff.mp read
    have same := response_stable (items_stable group_stable) held
    exact ⟨rfl, by rw [Body.settle, settlePayload, same]⟩
  | dataList =>
    obtain ⟨value, held, rfl⟩ := Option.map_eq_some_iff.mp read
    have same := response_stable (items_stable dataMetadata_stable) held
    exact ⟨rfl, by rw [Body.settle, settlePayload, same]⟩
  | read =>
    obtain ⟨value, held, rfl⟩ := Option.map_eq_some_iff.mp read
    exact ⟨rfl, by rw [Body.settle, settlePayload, record_stable readResponse_stable held]⟩
  | versionInfo =>
    obtain ⟨value, held, rfl⟩ := Option.map_eq_some_iff.mp read
    exact ⟨rfl, congrArg Body.versionInfo (response_stable versionInfo_stable held)⟩

/-- **A body survives the wire exactly when it is plain**, and whatever a client
reads, from any document, is plain: writing it and reading it again changes
nothing. -/
theorem survives_iff_plain :
    (∀ body : Body, body.type.fromJson body.toJson = some body ↔ body.Plain) ∧
      ∀ (type : BodyType) (json : Json) (body : Body), type.fromJson json = some body →
        body.Plain ∧ type.fromJson body.toJson = some body := by
  constructor
  · intro body
    rw [body_reads, Option.some.injEq, settle_iff]
  · intro type json body read
    obtain ⟨rfl, settled⟩ := fromJson_settled read
    exact ⟨settle_iff.mp settled, by rw [body_reads, settled]⟩

end OpenSovd.Bodies
