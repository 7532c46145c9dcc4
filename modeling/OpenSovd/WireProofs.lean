import OpenSovd.Wire

/-! Bodies read back. Two things do not survive the trip: a JSON value that is
there and null, which reads as absent, and a custom category under a known name,
which reads as the known one. -/
namespace OpenSovd.WireProofs
open OpenSovd.Support OpenSovd.Support.Records OpenSovd.Provider OpenSovd.Responses
open OpenSovd.Versions (SovdInfo VersionInfo)
open OpenSovd.DataRequests OpenSovd.Wire

/-! ### Settled values -/

/-- Null is no value. -/
def settleValue : Option Json → Option Json
  | some .null => none
  | value => value

def settleCategory (category : DataCategory) : DataCategory := .ofString category.asStr

def settleGenericError (error : GenericError) : GenericError :=
  { error with parameters := settleValue error.parameters }

def settleErrorEntry (entry : DataErrorEntry) : DataErrorEntry :=
  { entry with error := settleGenericError entry.error }

def settleMetadata (m : DataMetadata) : DataMetadata :=
  { m with category := settleCategory m.category }

def settleCategoryInformation (c : DataCategoryInformation) : DataCategoryInformation :=
  { c with item := settleCategory c.item }

def settleGroup (g : Group) : Group := { g with category := settleCategory g.category }

def settleReadResponse (r : ReadResponse) : ReadResponse :=
  { r with errors := r.errors.map (List.map settleErrorEntry), schema := settleValue r.schema }

def settleSovdInfo (info : SovdInfo Json) : SovdInfo Json :=
  { info with vendorInfo := settleValue info.vendorInfo }

def settleVersionInfo (info : VersionInfo Json) : VersionInfo Json :=
  ⟨info.sovdInfo.map settleSovdInfo⟩

def settleItems {α : Type} (settle : α → α) (list : Items α) : Items α := ⟨list.items.map settle⟩

def settleResponse {α : Type} (settle : α → α) (response : Response α) : Response α :=
  ⟨settle response.data, settleValue response.schema⟩

/-! ### Values -/

theorem elim_anyValue (value : Option Json) : value.elim (some none) anyValue = some (settleValue value) := by
  cases value with
  | none => rfl
  | some json => cases json <;> rfl

theorem elim_string (text : Option String) :
    (text.map Json.string).elim (some none) (nullable string) = some text := by
  cases text <;> rfl

section Values
variable {α : Type} (write : α → Json) (read : Json → Option α) (settle : α → α)

/-- A value whose JSON is not null and reads back is there again. -/
theorem elim_nullable (reads : ∀ value, write value ≠ .null ∧ read (write value) = some (settle value))
    (value : Option α) :
    (value.map write).elim (some none) (nullable read) = some (value.map settle) := by
  cases value with
  | none => rfl
  | some value =>
    obtain ⟨there, back⟩ := reads value
    change nullable read (write value) = some (some (settle value))
    unfold nullable
    split
    · rename_i null
      exact absurd null there
    · rw [back]
      rfl

theorem array_settles (each : ∀ item, read (write item) = some (settle item)) (items : List α) :
    array read (.array (items.map write)) = some (items.map settle) :=
  mapM_settles items each

end Values

theorem array_strings (texts : List String) :
    array string (.array (texts.map .string)) = some texts := by
  have settled := array_settles Json.string string id (fun _ => rfl) texts
  rwa [List.map_id] at settled

theorem elim_strings (texts : Option (List String)) :
    (texts.map fun texts => Json.array (texts.map .string)).elim (some none)
      (nullable (array string)) = some texts := by
  have settled := elim_nullable (fun texts => Json.array (texts.map .string)) (array string) id
    (fun texts => ⟨nofun, array_strings texts⟩) texts
  rwa [Option.map_id] at settled

/-- Keys that are new are put behind the others. -/
theorem foldlM_insert {entries : List (String × String)} {map : OrderedMap String String}
    (distinct : ((map.entries ++ entries).map Prod.fst).Nodup) :
    ∃ all, (entries.map fun entry => (entry.1, Json.string entry.2)).foldlM
        (fun map field => (string field.2).map (map.insert field.1)) map = some all ∧
      all.entries = map.entries ++ entries := by
  induction entries generalizing map with
  | nil => exact ⟨map, rfl, (List.append_nil _).symm⟩
  | cons entry rest ih =>
    have fresh : entry.1 ∉ map.entries.map Prod.fst := by
      intro present
      rw [List.map_append, List.map_cons, List.nodup_append] at distinct
      exact distinct.2.2 _ present _ List.mem_cons_self rfl
    have grown : (map.insert entry.1 entry.2).entries = map.entries ++ [entry] := if_neg fresh
    have shifted : (((map.insert entry.1 entry.2).entries ++ rest).map Prod.fst).Nodup := by
      rwa [grown, List.append_assoc, List.singleton_append]
    obtain ⟨all, read, shape⟩ := ih shifted
    refine ⟨all, read, ?_⟩
    rw [shape, grown, List.append_assoc, List.singleton_append]

theorem stringMap_variantJson (variant : OrderedMap String String) :
    stringMap (variantJson variant) = some variant := by
  have distinct : (((OrderedMap.empty : OrderedMap String String).entries ++
      variant.entries).map Prod.fst).Nodup := variant.nodup
  obtain ⟨all, read, shape⟩ := foldlM_insert distinct
  obtain ⟨entries, nodup⟩ := variant
  obtain ⟨found, foundNodup⟩ := all
  have same : found = entries := shape
  subst same
  exact read

theorem elim_variant (variant : Option (OrderedMap String String)) :
    (variant.map variantJson).elim (some none) (nullable stringMap) = some variant := by
  have settled := elim_nullable variantJson stringMap id
    (fun variant => ⟨nofun, stringMap_variantJson variant⟩) variant
  rwa [Option.map_id] at settled

theorem record_settles {α : Type} {format : Format Json α} {settle : α → α}
    (settles : format.Settles settle) (value : α) :
    record format (recordJson format value) = some (settle value) :=
  format.read_fields settles value

theorem array_records {α : Type} {format : Format Json α} {settle : α → α}
    (settles : format.Settles settle) (values : List α) :
    array (record format) (.array (values.map (recordJson format))) = some (values.map settle) :=
  array_settles _ _ _ (record_settles settles) values

theorem errorCode_reads (code : ErrorCode) :
    ErrorCode.fromJson (.string code.asStr) = some code := by
  cases code <;> rfl

theorem category_reads (name : String) :
    DataCategory.fromJson (.string name) = some (.ofString name) := by
  have tagged : unitVariant DataCategory.known (.string name) = DataCategory.known name := rfl
  cases named : DataCategory.ofString name with
  | custom other =>
    have same : (DataCategory.ofString name).asStr = name := DataQueries.asStr_ofString name
    rw [named] at same
    have text : other = name := same
    simp [DataCategory.fromJson, tagged, DataCategory.known, named, string, text]
  | _ => simp [DataCategory.fromJson, tagged, DataCategory.known, named]

/-! ### Fields -/

section Fields
variable {fields : List (String × Json)} {position : Nat} {name : String}

theorem required_string {text : String} (held : given name fields = [.string text]) :
    (Source.named fields).required position name string = some text :=
  Source.required_of_given held string

theorem required_category {category : DataCategory}
    (held : given name fields = [.string category.asStr]) :
    (Source.named fields).required position name DataCategory.fromJson =
      some (settleCategory category) :=
  (Source.required_of_given held _).trans (category_reads category.asStr)

theorem optional_string {text : Option String}
    (held : given name fields = (text.map Json.string).toList) :
    (Source.named fields).optional position name (nullable string) = some text :=
  (Source.optional_of_given held _).trans (elim_string text)

theorem optional_strings {texts : Option (List String)} (held : given name fields =
    (texts.map fun texts => Json.array (texts.map .string)).toList) :
    (Source.named fields).optional position name (nullable (array string)) = some texts :=
  (Source.optional_of_given held _).trans (elim_strings texts)

theorem optional_value {value : Option Json} (held : given name fields = value.toList) :
    (Source.named fields).optional position name anyValue = some (settleValue value) :=
  (Source.optional_of_given held _).trans (elim_anyValue value)

end Fields

/-! ### Records -/

theorem genericError_settles : genericError.Settles settleGenericError := by
  intro error fields held
  simp only [genericError, List.forall_mem_cons] at held
  obtain ⟨code, vendor, message, translation, parameters, _⟩ := held
  have errorCode : (Source.named fields).required 0 "error_code" ErrorCode.fromJson =
      some error.errorCode := (Source.required_of_given code _).trans (errorCode_reads _)
  simp only [genericError, errorCode, optional_string vendor, required_string message,
    optional_string translation, optional_value parameters]
  rfl

theorem dataErrorEntry_settles : dataErrorEntry.Settles settleErrorEntry := by
  intro entry fields held
  simp only [dataErrorEntry, List.forall_mem_cons] at held
  obtain ⟨path, error, _⟩ := held
  have inner : (Source.named fields).required 1 "error" (record genericError) =
      some (settleGenericError entry.error) :=
    (Source.required_of_given error _).trans (record_settles genericError_settles entry.error)
  simp only [dataErrorEntry, required_string path, inner]
  rfl

theorem entityReference_settles : entityReference.Settles id := by
  intro entity fields held
  simp only [entityReference, List.forall_mem_cons] at held
  obtain ⟨id, name, translation, href, tags, _⟩ := held
  simp only [entityReference, required_string id, required_string name,
    optional_string translation, required_string href, optional_strings tags]
  rfl

theorem items_settles {α : Type} {item : Format Json α} {settle : α → α}
    (settles : item.Settles settle) : (items item).Settles (settleItems settle) := by
  intro list fields held
  simp only [items, List.forall_mem_cons] at held
  have all : (Source.named fields).required 0 "items" (array (record item)) =
      some (list.items.map settle) :=
    (Source.required_of_given held.1 _).trans (array_records settles list.items)
  simp only [items, all]
  rfl

theorem entityCapabilities_settles : entityCapabilities.Settles id := by
  intro c fields held
  simp only [entityCapabilities, List.forall_mem_cons] at held
  obtain ⟨id, name, translation, variant, configurations, bulkData, data, dataLists, faults,
    operations, updates, modes, areas, components, apps, functions, subcomponents, subareas, locks,
    logs, belongsTo, contains, communicationLogs, cyclicSubscriptions, dependsOn, hosts,
    isLocatedOn, scripts, triggers, _⟩ := held
  have variants : (Source.named fields).optional 3 "variant" (nullable stringMap) =
      some c.variant := (Source.optional_of_given variant _).trans (elim_variant c.variant)
  simp only [entityCapabilities, required_string id, required_string name,
    optional_string translation, variants, optional_string configurations,
    optional_string bulkData, optional_string data, optional_string dataLists,
    optional_string faults, optional_string operations, optional_string updates,
    optional_string modes, optional_string areas, optional_string components,
    optional_string apps, optional_string functions, optional_string subcomponents,
    optional_string subareas, optional_string locks, optional_string logs,
    optional_string belongsTo, optional_string contains, optional_string communicationLogs,
    optional_string cyclicSubscriptions, optional_string dependsOn, optional_string hosts,
    optional_string isLocatedOn, optional_string scripts, optional_string triggers]
  rfl

theorem dataMetadata_settles : dataMetadata.Settles settleMetadata := by
  intro m fields held
  simp only [dataMetadata, List.forall_mem_cons] at held
  obtain ⟨id, name, category, translation, groups, tags, _⟩ := held
  simp only [dataMetadata, required_string id, required_string name, required_category category,
    optional_string translation, optional_strings groups, optional_strings tags]
  rfl

theorem dataCategoryInformation_settles :
    dataCategoryInformation.Settles settleCategoryInformation := by
  intro c fields held
  simp only [dataCategoryInformation, List.forall_mem_cons] at held
  obtain ⟨item, translation, _⟩ := held
  simp only [dataCategoryInformation, required_category item, optional_string translation]
  rfl

theorem group_settles : group.Settles settleGroup := by
  intro g fields held
  simp only [group, List.forall_mem_cons] at held
  obtain ⟨id, category, categoryTranslation, parent, groupTranslation, _⟩ := held
  simp only [group, required_string id, required_category category,
    optional_string categoryTranslation, optional_string parent, optional_string groupTranslation]
  rfl

theorem readResponse_settles : readResponse.Settles settleReadResponse := by
  intro r fields held
  simp only [readResponse, List.forall_mem_cons] at held
  obtain ⟨id, data, errors, schema, _⟩ := held
  have value : (Source.named fields).required 1 "data" some = some r.data :=
    Source.required_of_given data some
  have entries : (Source.named fields).optional 2 "errors"
      (nullable (array (record dataErrorEntry))) = some (r.errors.map (List.map settleErrorEntry)) :=
    (Source.optional_of_given errors _).trans
      (elim_nullable (fun errors => .array (errors.map (recordJson dataErrorEntry))) _ _
        (fun errors => ⟨nofun, array_records dataErrorEntry_settles errors⟩) r.errors)
  simp only [readResponse, required_string id, value, entries, optional_value schema]
  rfl

theorem sovdInfo_settles : sovdInfo.Settles settleSovdInfo := by
  intro info fields held
  simp only [sovdInfo, List.forall_mem_cons] at held
  obtain ⟨version, baseUri, vendor, _⟩ := held
  simp only [sovdInfo, required_string version, required_string baseUri, optional_value vendor]
  rfl

theorem versionInfo_settles : versionInfo.Settles settleVersionInfo := by
  intro info fields held
  simp only [versionInfo, List.forall_mem_cons] at held
  have all : (Source.named fields).required 0 "sovd_info" (array (record sovdInfo)) =
      some (info.sovdInfo.map settleSovdInfo) :=
    (Source.required_of_given held.1 _).trans (array_records sovdInfo_settles info.sovdInfo)
  simp only [versionInfo, all]
  rfl

/-! ### Responses -/

section Responses
variable {α : Type} {format : Format Json α} {settle : α → α}

/-- A response is read back with its schema. -/
theorem response_settles (settles : format.Settles settle) (foreign : "schema" ∉ format.names)
    (value : Response α) :
    response format (responseJson format value) = some (settleResponse settle value) := by
  have schema : (Source.named (written (format.slots value.data ++ [("schema", value.schema)]))).optional
      0 "schema" anyValue = some (settleValue value.schema) :=
    optional_value (Format.given_outer foreign value.data value.schema)
  have data := Format.read_without settles foreign value.data value.schema
  simp only [response, responseJson, schema, data]
  rfl

/-- A client that asks for the payload alone gets it. -/
theorem payload_settles (settles : format.Settles settle) (foreign : "schema" ∉ format.names)
    (value : Response α) : record format (responseJson format value) = some (settle value.data) :=
  Format.read_flattened settles foreign value.data value.schema

end Responses

/-! ### Whatever is read is settled -/

theorem anyValue_stable {json : Json} {value : Option Json} (read : anyValue json = some value) :
    settleValue value = value := by
  cases json <;> cases read <;> rfl

theorem optional_stable {source : Source Json} {position : Nat} {name : String}
    {value : Option Json} (read : source.optional position name anyValue = some value) :
    settleValue value = value := by
  rcases Source.optional_eq_some read with rfl | ⟨json, here⟩
  · rfl
  · exact anyValue_stable here

theorem settleCategory_known {name : String} {category : DataCategory}
    (known : DataCategory.known name = some category) : settleCategory category = category := by
  unfold DataCategory.known at known
  split at known
  · cases known
  · rename_i other
    cases known
    cases named : DataCategory.ofString name with
    | custom text => exact absurd named (other text)
    | _ => rfl

theorem settleCategory_ofString (name : String) :
    settleCategory (.ofString name) = .ofString name := by
  rw [settleCategory, DataQueries.asStr_ofString]

theorem category_stable {json : Json} {category : DataCategory}
    (read : DataCategory.fromJson json = some category) : settleCategory category = category := by
  cases json with
  | string name =>
    cases (category_reads name).symm.trans read
    exact settleCategory_ofString name
  | object fields =>
    have tagged : unitVariant DataCategory.known (.object fields) = some category := by
      simpa [DataCategory.fromJson, string] using read
    unfold unitVariant at tagged
    split at tagged
    · exact settleCategory_known tagged
    · exact settleCategory_known tagged
    · cases tagged
  | _ => cases read

section Records
variable {α : Type} {format : Format Json α} {settle : α → α}

theorem record_stable (stable : format.Stable settle) {json : Json} {value : α}
    (read : record format json = some value) : settle value = value := by
  cases json with
  | object fields => exact stable _ _ read
  | array items =>
    simp only [record] at read
    split at read
    · exact stable _ _ read
    · cases read
  | _ => cases read

theorem array_stable (stable : format.Stable settle) {json : Json} {values : List α}
    (read : array (record format) json = some values) : values.map settle = values := by
  cases json with
  | array items => exact mapM_stable (fun _ _ => record_stable stable) read
  | _ => cases read

theorem response_stable (stable : format.Stable settle) {json : Json} {value : Response α}
    (read : response format json = some value) : settleResponse settle value = value := by
  cases json with
  | object fields =>
    obtain ⟨schema, outer, later⟩ := Option.bind_eq_some_iff.mp read
    obtain ⟨data, inner, same⟩ := Option.bind_eq_some_iff.mp later
    cases same
    have payload : settle data = data := stable _ _ inner
    have value : settleValue schema = schema := optional_stable outer
    simp only [settleResponse, payload, value]
  | _ => cases read

theorem items_stable (stable : format.Stable settle) : (items format).Stable (settleItems settle) := by
  intro source list read
  obtain ⟨all, held, same⟩ := Option.bind_eq_some_iff.mp read
  cases same
  obtain ⟨json, here⟩ := Source.required_eq_some held
  simp only [settleItems, array_stable stable here]

end Records

theorem genericError_stable : genericError.Stable settleGenericError := by
  intro source error read
  simp only [genericError, Option.bind_eq_bind, Option.bind_eq_some_iff] at read
  obtain ⟨code, _, vendor, _, message, _, translation, _, parameters, last, same⟩ := read
  cases same
  simp only [settleGenericError, optional_stable last]

theorem dataErrorEntry_stable : dataErrorEntry.Stable settleErrorEntry := by
  intro source entry read
  simp only [dataErrorEntry, Option.bind_eq_bind, Option.bind_eq_some_iff] at read
  obtain ⟨path, _, error, held, same⟩ := read
  cases same
  obtain ⟨json, here⟩ := Source.required_eq_some held
  simp only [settleErrorEntry, record_stable genericError_stable here]

theorem dataMetadata_stable : dataMetadata.Stable settleMetadata := by
  intro source m read
  simp only [dataMetadata, Option.bind_eq_bind, Option.bind_eq_some_iff] at read
  obtain ⟨id, _, name, _, category, held, translation, _, groups, _, tags, _, same⟩ := read
  cases same
  obtain ⟨json, here⟩ := Source.required_eq_some held
  simp only [settleMetadata, category_stable here]

theorem dataCategoryInformation_stable :
    dataCategoryInformation.Stable settleCategoryInformation := by
  intro source c read
  simp only [dataCategoryInformation, Option.bind_eq_bind, Option.bind_eq_some_iff] at read
  obtain ⟨item, held, translation, _, same⟩ := read
  cases same
  obtain ⟨json, here⟩ := Source.required_eq_some held
  simp only [settleCategoryInformation, category_stable here]

theorem group_stable : group.Stable settleGroup := by
  intro source g read
  simp only [group, Option.bind_eq_bind, Option.bind_eq_some_iff] at read
  obtain ⟨id, _, category, held, translation, _, parent, _, parentTranslation, _, same⟩ := read
  cases same
  obtain ⟨json, here⟩ := Source.required_eq_some held
  simp only [settleGroup, category_stable here]

theorem readResponse_stable : readResponse.Stable settleReadResponse := by
  intro source r read
  simp only [readResponse, Option.bind_eq_bind, Option.bind_eq_some_iff] at read
  obtain ⟨id, _, data, _, errors, held, schema, last, same⟩ := read
  cases same
  have entries : errors.map (List.map settleErrorEntry) = errors := by
    rcases Source.optional_eq_some held with rfl | ⟨json, here⟩
    · rfl
    · unfold nullable at here
      split at here
      · cases here
        rfl
      · obtain ⟨found, all, rfl⟩ := Option.map_eq_some_iff.mp here
        rw [Option.map_some, array_stable dataErrorEntry_stable all]
  simp only [settleReadResponse, entries, optional_stable last]

theorem sovdInfo_stable : sovdInfo.Stable settleSovdInfo := by
  intro source info read
  simp only [sovdInfo, Option.bind_eq_bind, Option.bind_eq_some_iff] at read
  obtain ⟨version, _, baseUri, _, vendor, last, same⟩ := read
  cases same
  simp only [settleSovdInfo, optional_stable last]

theorem versionInfo_stable : versionInfo.Stable settleVersionInfo := by
  intro source info read
  obtain ⟨all, held, same⟩ := Option.bind_eq_some_iff.mp read
  cases same
  obtain ⟨json, here⟩ := Source.required_eq_some held
  simp only [settleVersionInfo, array_stable sovdInfo_stable here]

theorem id_stable {α : Type} (format : Format Json α) : format.Stable id := fun _ _ _ => rfl

end OpenSovd.WireProofs
