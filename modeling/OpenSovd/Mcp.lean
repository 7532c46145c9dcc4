import OpenSovd.RemoteTransparency
import OpenSovd.Support.Lines
import OpenSovd.TopologyRuns

/-! The topology resource of the MCP server: three listings of a gateway, asked
for at the same time, as one text. Each listing is the registry at the moment its
request is served; the resource is there when all three arrive, and it can be
read line by line unless some name or id has a line feed. -/
namespace OpenSovd.Mcp
open OpenSovd.Support OpenSovd.Support.Lines OpenSovd.Support.Fallible
open OpenSovd.Provider OpenSovd.Entity OpenSovd.Topology OpenSovd.TopologyRuns OpenSovd.Responses
open OpenSovd.Handlers OpenSovd.UriText OpenSovd.UriJoin OpenSovd.RemoteCalls
open OpenSovd.WireProofs OpenSovd.RemoteCallProofs OpenSovd.RemoteTransparency
open OpenSovd.Http (Uri)
open OpenSovd.VersionSelection (Client)
open TopologyState

def topologyUri : String := "sovd://topology"

/-- The errors of MCP, as far as they are returned. -/
inductive McpError where
  | resourceNotFound (message : String)
  | internalError (message : String)

structure TextContents where
  text : String
  uri : String

/-! ### The three listings -/

inductive Listing where
  | components
  | areas
  | apps
  deriving DecidableEq

/-- `list_components().send()` and its siblings. -/
def Listing.send (parser : UriParser) (client : Client HttpService) :
    Listing → Except ClientError (Response Entities)
  | .components => (Call.listComponents false).send parser client
  | .areas => (Call.listAreas false).send parser client
  | .apps => (Call.listApps false).send parser client

/-- `try_join!`: the first failure in the order in which they end, or all of them. -/
def tryJoin {ε α : Type} (order : List Listing) (results : Listing → Except ε α) :
    Except ε (α × α × α) := do
  forM order fun listing => do let _ ← results listing
  return (← results .components, ← results .areas, ← results .apps)

/-! ### The text -/

def entryLine (item : EntityReference) : String := "- " ++ item.name ++ " (id: " ++ item.id ++ ")"

def writeItems (text : String) (items : List EntityReference) : String :=
  items.foldl (fun text item => writeln text (entryLine item)) text

def topologyText (components areas apps : Entities) : String :=
  let text := writeln "" "# Vehicle Topology\n"
  let text := writeln text ("## Components (" ++ toString components.items.length ++ ")\n")
  let text := writeItems text components.items
  let text := writeln text ("\n## Areas (" ++ toString areas.items.length ++ ")\n")
  let text := writeItems text areas.items
  let text := writeln text ("\n## Apps (" ++ toString apps.items.length ++ ")\n")
  writeItems text apps.items

/-- `read_resource`, with the results of the three requests. -/
def readResource (display : ClientError → String) (order : List Listing)
    (results : Listing → Except ClientError (Response Entities)) (uri : String) :
    Except McpError TextContents :=
  if uri ≠ topologyUri then .error (.resourceNotFound ("unknown resource: " ++ uri))
  else do
    let (components, areas, apps) ←
      tryJoin order fun listing => (results listing).mapError (.internalError ∘ display)
    return ⟨topologyText components.data areas.data apps.data, topologyUri⟩

/-! ### What the text is made of -/

/-- Name and id of the entities of one kind, in the order of the registry. -/
def entries {P : Type} (topo : TopologyState P) : Listing → List (String × String)
  | .components => topo.listComponents.map fun e => (e.name, e.id)
  | .areas => topo.listAreas.map fun e => (e.name, e.id)
  | .apps => topo.listApps.map fun e => (e.name, e.id)

def Listing.title : Listing → String
  | .components => "Components"
  | .areas => "Areas"
  | .apps => "Apps"

def sectionLines (listing : Listing) (entries : List (String × String)) : List String :=
  ["## " ++ listing.title ++ " (" ++ toString entries.length ++ ")", ""] ++
    entries.map fun entry => "- " ++ entry.1 ++ " (id: " ++ entry.2 ++ ")"

/-- The lines of the resource. -/
def topologyLines (entries : Listing → List (String × String)) : List String :=
  ["# Vehicle Topology", ""] ++ sectionLines .components (entries .components) ++
    [""] ++ sectionLines .areas (entries .areas) ++
    [""] ++ sectionLines .apps (entries .apps)

def namesOf (items : List EntityReference) : List (String × String) :=
  items.map fun item => (item.name, item.id)

theorem writeItems_eq (text : String) (items : List EntityReference) :
    writeItems text items = writeLines text (items.map entryLine) := by
  rw [writeItems, writeLines, List.foldl_map]

theorem writeln_heading (text title : String) (count : Nat) :
    writeln text (title ++ toString count ++ ")\n") =
      writeLines text [title ++ toString count ++ ")", ""] := by
  have close : ")\n" = ")" ++ "\n" := rfl
  simp only [writeln, writeLines, List.foldl_cons, List.foldl_nil, String.append_assoc, close,
    String.append_empty]

theorem writeln_gap_heading (text title : String) (count : Nat) :
    writeln text ("\n" ++ title ++ toString count ++ ")\n") =
      writeLines text ["", title ++ toString count ++ ")", ""] := by
  have close : ")\n" = ")" ++ "\n" := rfl
  simp only [writeln, writeLines, List.foldl_cons, List.foldl_nil, String.append_assoc, close,
    String.append_empty]

theorem topologyText_eq (listed : Listing → Entities) :
    topologyText (listed .components) (listed .areas) (listed .apps) =
      writeLines "" (topologyLines fun listing => namesOf (listed listing).items) := by
  have title : writeln "" "# Vehicle Topology\n" = writeLines "" ["# Vehicle Topology", ""] := rfl
  have areas : "\n## Areas (" = "\n" ++ "## Areas (" := rfl
  have apps : "\n## Apps (" = "\n" ++ "## Apps (" := rfl
  have entry : entryLine = fun item => "- " ++ item.name ++ " (id: " ++ item.id ++ ")" := rfl
  simp only [topologyText, areas, apps, writeln_gap_heading]
  simp only [title, writeln_heading, writeItems_eq, ← writeLines_append]
  congr 1
  simp [topologyLines, sectionLines, Listing.title, namesOf, entry, Function.comp_def]

/-! ### The requests together -/

theorem tryJoin_ok {ε α : Type} {order : List Listing} {results : Listing → Except ε α}
    {values : Listing → α} (all : ∀ listing, results listing = .ok (values listing)) :
    tryJoin order results = .ok (values .components, values .areas, values .apps) := by
  have none : (forM order fun listing => do let _ ← results listing) = .ok () := by
    induction order with
    | nil => rfl
    | cons listing rest ih =>
      rw [List.forM_cons, all, ih]
      rfl
  rw [tryJoin, none]
  simp only [all]
  rfl

/-- A failure is that of one of the requests. -/
theorem tryJoin_error {ε α : Type} {order : List Listing} (results : Listing → Except ε α)
    (covers : ∀ listing, listing ∈ order) {failed : Listing} {cause : ε}
    (error : results failed = .error cause) :
    ∃ listing cause, results listing = .error cause ∧ tryJoin order results = .error cause := by
  have first : ∃ listing cause, results listing = .error cause ∧
      (forM order fun listing => do let _ ← results listing) = .error cause := by
    have inside := covers failed
    clear covers
    induction order with
    | nil => cases inside
    | cons listing rest ih =>
      rw [List.forM_cons]
      cases here : results listing with
      | error other => exact ⟨listing, other, here, rfl⟩
      | ok value =>
        rcases List.mem_cons.mp inside with rfl | later
        · cases error.symm.trans here
        · exact ih later
  obtain ⟨listing, cause, here, stopped⟩ := first
  refine ⟨listing, cause, here, ?_⟩
  rw [tryJoin, stopped]
  rfl

theorem mapError_eq_error_iff {ε δ α : Type} {result : Except ε α} {wrap : ε → δ} {cause : δ} :
    result.mapError wrap = .error cause ↔ ∃ error, result = .error error ∧ wrap error = cause := by
  cases result <;> simp [Except.mapError]

/-! ### In front of a gateway -/

section Gateway
variable {P V : Type} [DataProvider P] (mounted : MountedServer P V) (lossy : List UInt8 → String)
  (parser : UriParser) (base : AbsoluteUri) (timeout : Option Nat)
  (states : Listing → TopologyState P) (networks : Listing → HttpRequest → Nat × Bool)

/-- The gateway while its registry is in a given state. -/
def showing (topo : TopologyState P) : MountedServer P V :=
  { mounted with server := { mounted.server with topology := topo } }

/-- What the client gets for a listing that is served in its own state. -/
def fetched (listing : Listing) : Except ClientError (Response Entities) :=
  listing.send parser
    ⟨base.uri, timeout, across (showing mounted (states listing)) lossy (networks listing)⟩

def Listing.path : Listing → String
  | .components => "/components"
  | .areas => "/areas"
  | .apps => "/apps"

/-- The request of a listing can be made, and its answer arrives in time. -/
def Arrives (listing : Listing) : Prop :=
  ∃ uri, buildUriWithQuery parser base.uri listing.path [] = some uri ∧
    timeout.any (· < (networks listing (callRequest uri)).1) = false ∧
    (networks listing (callRequest uri)).2 = true

variable {mounted lossy parser base timeout states networks}

omit [DataProvider P] in
/-- What is returned to a client that sends no tags has all names and ids. -/
theorem names_listed (schemas : Schemas) (link : String) (topo : TopologyState P) (schema : Bool) :
    namesOf (componentList schemas link topo { includeSchema := schema }).data.items =
        entries topo .components ∧
      namesOf (areaList schemas link topo { includeSchema := schema }).data.items =
        entries topo .areas ∧
      namesOf (appList schemas link topo { includeSchema := schema }).data.items =
        entries topo .apps := by
  have all {E : Type} (listed : List E) (tags : E → List String) :
      listed.filter (fun e => matchesTags { includeSchema := schema } (tags e)) = listed :=
    List.filter_eq_self.mpr fun _ _ => rfl
  refine ⟨?_, ?_, ?_⟩
  · simp only [componentList, entitiesResponse, componentItems, all, namesOf, List.map_map]
    rfl
  · simp only [areaList, entitiesResponse, areaItems, all, namesOf, List.map_map]
    rfl
  · simp only [appList, entitiesResponse, appItems, all, namesOf, List.map_map]
    rfl

omit [DataProvider P] in
/-- The names and ids survive the wire. -/
theorem settled_names (response : Response Entities) :
    namesOf (settleResponse (settleItems id) response).data.items =
      namesOf response.data.items :=
  congrArg namesOf (List.map_id response.data.items)

/-- A request that can be made and is answered in time returns its answer. -/
theorem sent_cases {α : Type} (listing : Listing) {value : Uri → α}
    {result : Except ClientError α}
    (sent : result = match buildUriWithQuery parser base.uri listing.path [] with
      | none => .error .invalidUri
      | some uri => arrives timeout (networks listing (callRequest uri)) (.ok (value uri))) :
    (Arrives parser base timeout networks listing ∧ ∃ uri, result = .ok (value uri)) ∨
      (¬ Arrives parser base timeout networks listing ∧ ∃ cause, result = .error cause) := by
  cases built : buildUriWithQuery parser base.uri listing.path [] with
  | none =>
    rw [built] at sent
    refine Or.inr ⟨fun arrived => ?_, _, sent⟩
    obtain ⟨uri, built', _⟩ := arrived
    cases built.symm.trans built'
  | some uri =>
    rw [built] at sent
    have same {other : Uri} (built' : buildUriWithQuery parser base.uri listing.path [] = some other) :
        other = uri := Option.some.inj (built'.symm.trans built)
    simp only [arrives] at sent
    split at sent
    · rename_i late
      refine Or.inr ⟨fun arrived => ?_, _, sent⟩
      obtain ⟨other, built', timely, _⟩ := arrived
      rw [same built', late] at timely
      cases timely
    · rename_i timely
      split at sent
      · rename_i carried
        exact Or.inl ⟨⟨uri, built, Bool.eq_false_iff.mpr timely, carried⟩, uri, sent⟩
      · rename_i lost
        refine Or.inr ⟨fun arrived => ?_, _, sent⟩
        obtain ⟨other, built', _, carried⟩ := arrived
        rw [same built'] at carried
        exact lost carried

variable (lossy parser timeout states networks) in
/-- A listing either arrives, with the names and ids in the registry, or fails. -/
theorem fetched_cases (points : PointsAt base mounted.config) (listing : Listing) :
    (Arrives parser base timeout networks listing ∧
      ∃ response, fetched mounted lossy parser base timeout states networks listing = .ok response ∧
        namesOf response.data.items = entries (states listing) listing) ∨
    (¬ Arrives parser base timeout networks listing ∧
      ∃ cause, fetched mounted lossy parser base timeout states networks listing = .error cause) := by
  obtain ⟨value, sent, names⟩ : ∃ value : Uri → Response Entities,
      (fetched mounted lossy parser base timeout states networks listing =
        match buildUriWithQuery parser base.uri listing.path [] with
        | none => .error .invalidUri
        | some uri => arrives timeout (networks listing (callRequest uri)) (.ok (value uri))) ∧
        ∀ uri, namesOf (value uri).data.items = entries (states listing) listing := by
    cases listing with
    | components =>
      refine ⟨_, send_eq (showing mounted (states .components)) lossy (networks .components)
        points (.listComponents false) nofun trivial, fun uri => ?_⟩
      exact (settled_names _).trans (names_listed _ _ (states .components) false).1
    | areas =>
      refine ⟨_, send_eq (showing mounted (states .areas)) lossy (networks .areas) points
        (.listAreas false) nofun trivial, fun uri => ?_⟩
      exact (settled_names _).trans (names_listed _ _ (states .areas) false).2.1
    | apps =>
      refine ⟨_, send_eq (showing mounted (states .apps)) lossy (networks .apps) points
        (.listApps false) nofun trivial, fun uri => ?_⟩
      exact (settled_names _).trans (names_listed _ _ (states .apps) false).2.2
  rcases sent_cases listing sent with ⟨arrived, uri, got⟩ | failed
  · exact Or.inl ⟨arrived, _, got, names uri⟩
  · exact Or.inr failed

end Gateway

/-! ### The entries -/

def Listing.ref : Listing → String → EntityRef
  | .components => .component
  | .areas => .area
  | .apps => .app

/-- Values that are kept under their own ids have the ids of the map. -/
theorem own_ids {E : Type} {nameOf idOf : E → String} {m : OrderedMap String E}
    (keyed : ∀ id e, m.get id = some e → idOf e = id) :
    (m.values.map fun e => (nameOf e, idOf e)).map Prod.snd = m.keys := by
  rw [OrderedMap.values, OrderedMap.keys, List.map_map, List.map_map]
  refine List.map_congr_left fun entry member => ?_
  exact keyed _ _ (OrderedMap.get_eq_some_iff.mpr member)

/-- The ids of a section are those that are registered, once each. -/
theorem entries_ids {P : Type} (ops : List (TopologyOp P)) (listing : Listing) :
    ((entries (after ops) listing).map Prod.snd).Nodup ∧
      ∀ id, id ∈ (entries (after ops) listing).map Prod.snd ↔
        listing.ref id ∈ registered (after ops) := by
  cases listing with
  | components =>
    have ids : (entries (after ops) .components).map Prod.snd = (after ops).components.keys :=
      own_ids (componentAreas_keyed ops)
    rw [ids]
    exact ⟨(after ops).components.nodup, fun id => Iff.rfl⟩
  | areas =>
    have ids : (entries (after ops) .areas).map Prod.snd = (after ops).areas.keys :=
      own_ids fun id area held => areas_keyed ops held
    rw [ids]
    exact ⟨(after ops).areas.nodup, fun id => Iff.rfl⟩
  | apps =>
    have ids : (entries (after ops) .apps).map Prod.snd = (after ops).apps.keys :=
      own_ids (hosting_keyed ops)
    rw [ids]
    exact ⟨(after ops).apps.nodup, fun id => Iff.rfl⟩

/-- No name and no id has a line feed. -/
def Inline (sections : Listing → List (String × String)) : Prop :=
  ∀ listing, ∀ entry ∈ sections listing, '\n' ∉ entry.1.toList ∧ '\n' ∉ entry.2.toList

theorem digits_inline (count : Nat) : '\n' ∉ Nat.toDigits 10 count := by
  intro member
  have wrong := Nat.isDigit_of_mem_toDigits (by decide) (by decide) member
  exact absurd wrong (by decide)

theorem mem_sectionLines {listing : Listing} {items : List (String × String)} :
    (∀ line ∈ sectionLines listing items, '\n' ∉ line.toList) ↔
      ∀ entry ∈ items, '\n' ∉ entry.1.toList ∧ '\n' ∉ entry.2.toList := by
  have title : '\n' ∉ listing.title.toList := by cases listing <;> decide
  have heading : '\n' ∉ ("## " ++ listing.title ++ " (" ++ toString items.length ++ ")").toList := by
    simp [title, digits_inline]
  have blank : '\n' ∉ "".toList := by simp
  have line (entry : String × String) :
      '\n' ∉ ("- " ++ entry.1 ++ " (id: " ++ entry.2 ++ ")").toList ↔
        '\n' ∉ entry.1.toList ∧ '\n' ∉ entry.2.toList := by
    simp
  simp only [sectionLines, List.forall_mem_append, List.forall_mem_cons, List.forall_mem_map, line]
  exact ⟨fun both => both.2, fun clean => ⟨⟨heading, blank, nofun⟩, clean⟩⟩

theorem topologyLines_inline {sections : Listing → List (String × String)} :
    (∀ line ∈ topologyLines sections, '\n' ∉ line.toList) ↔ Inline sections := by
  simp only [topologyLines, List.forall_mem_append, mem_sectionLines]
  constructor
  · rintro ⟨⟨⟨⟨⟨_, components⟩, _⟩, areas⟩, _⟩, apps⟩ listing
    cases listing
    · exact components
    · exact areas
    · exact apps
  · intro clean
    have blank : ∀ line ∈ [""], '\n' ∉ line.toList := by simp
    refine ⟨⟨⟨⟨⟨?_, clean .components⟩, blank⟩, clean .areas⟩, blank⟩, clean .apps⟩
    simp

/-! ### The resource -/

/-- What a client of the MCP server reads: an unknown URI is refused by name. The
topology is the registry as it was when each listing was served, or the error of
a listing that did not arrive. Its sections have the registered ids, once each,
and its lines can be told apart exactly if no name or id has a line feed. -/
structure ReadsRegistry {P V : Type} [DataProvider P] (display : ClientError → String)
    (order : List Listing) (mounted : MountedServer P V) (lossy : List UInt8 → String)
    (parser : UriParser) (base : AbsoluteUri) (timeout : Option Nat)
    (runs : Listing → List (TopologyOp P)) (networks : Listing → HttpRequest → Nat × Bool) :
    Prop where
  unknown : ∀ results uri, uri ≠ topologyUri →
    readResource display order results uri =
      .error (.resourceNotFound ("unknown resource: " ++ uri))
  snapshot : (∀ listing, Arrives parser base timeout networks listing) →
    readResource display order
        (fetched mounted lossy parser base timeout (fun listing => after (runs listing)) networks)
        topologyUri =
      .ok ⟨writeLines "" (topologyLines fun listing => entries (after (runs listing)) listing),
        topologyUri⟩
  fails : (¬ ∀ listing, Arrives parser base timeout networks listing) →
    ∃ listing cause, ¬ Arrives parser base timeout networks listing ∧
      fetched mounted lossy parser base timeout (fun listing => after (runs listing)) networks
        listing = .error cause ∧
      readResource display order
          (fetched mounted lossy parser base timeout (fun listing => after (runs listing)) networks)
          topologyUri = .error (.internalError (display cause))
  once : ∀ listing, ((entries (after (runs listing)) listing).map Prod.snd).Nodup ∧
    ∀ id, id ∈ (entries (after (runs listing)) listing).map Prod.snd ↔
      listing.ref id ∈ registered (after (runs listing))
  legible : let lines := topologyLines fun listing => entries (after (runs listing)) listing
    readLines (writeLines "" lines) = lines ↔
      Inline fun listing => entries (after (runs listing)) listing

/-- **The topology resource reads the registry**, whenever its three listings are
served and in whatever order they end. -/
theorem topology_resource_reads_registry {P V : Type} [DataProvider P]
    (display : ClientError → String) (order : List Listing)
    (covers : ∀ listing, listing ∈ order) (mounted : MountedServer P V)
    (lossy : List UInt8 → String) (parser : UriParser) (base : AbsoluteUri)
    (timeout : Option Nat) (points : PointsAt base mounted.config)
    (runs : Listing → List (TopologyOp P)) (networks : Listing → HttpRequest → Nat × Bool) :
    ReadsRegistry display order mounted lossy parser base timeout runs networks where
  unknown results uri other := if_pos other
  snapshot arrive := by
    have each (listing : Listing) := (fetched_cases lossy parser timeout
      (fun listing => after (runs listing)) networks points listing).resolve_right
        fun failed => failed.1 (arrive listing)
    choose arrived responses got names using each
    have all (listing : Listing) :=
      congrArg (Except.mapError (McpError.internalError ∘ display)) (got listing)
    rw [readResource, if_neg (not_not_intro rfl), tryJoin_ok all]
    have text := topologyText_eq fun listing => (responses listing).data
    simp only [names] at text
    exact congrArg (fun text => Except.ok (TextContents.mk text topologyUri)) text
  fails missing := by
    obtain ⟨failed, lost⟩ := not_forall.mp missing
    have either (listing : Listing) := fetched_cases lossy parser timeout
      (fun listing => after (runs listing)) networks points listing
    obtain ⟨_, cause, error⟩ := (either failed).resolve_left fun arrived => lost arrived.1
    obtain ⟨listing, wrong, here, stopped⟩ := tryJoin_error
      (fun listing => Except.mapError (McpError.internalError ∘ display)
        (fetched mounted lossy parser base timeout (fun listing => after (runs listing)) networks
          listing))
      covers (mapError_eq_error_iff.mpr ⟨cause, error, rfl⟩)
    obtain ⟨cause, error, rfl⟩ := mapError_eq_error_iff.mp here
    refine ⟨listing, cause, fun arrived => ?_, error, ?_⟩
    · obtain ⟨_, response, got, _⟩ := (either listing).resolve_right
        fun failed => failed.1 arrived
      cases error.symm.trans got
    · rw [readResource, if_neg (not_not_intro rfl), stopped]
      rfl
  once listing := entries_ids (runs listing) listing
  legible := (readLines_written_iff _).trans topologyLines_inline

/-- A server without entities, mounted at `/sovd`. -/
def emptyGateway : MountedServer FixedListing Unit where
  server := ⟨⟨.null, .null, .null⟩, .new, none, fun _ => .ok .null, .null⟩
  config := ⟨"/sovd", none⟩
  isTls := false
  fallback _ := ⟨404, none⟩
  withinLimit _ := true

/-- A gateway that is asked while a first component registers. -/
theorem busy_gateway_read :
    ReadsRegistry (fun _ => "") [.apps, .components, .areas] emptyGateway (fun _ => "") splitting
      versionedBase (some 5)
      (fun
        | .components => [.addComponent { id := "ecu", name := "ECU" }]
        | _ => [])
      fun _ _ => (3, true) :=
  topology_resource_reads_registry (fun _ => "") [.apps, .components, .areas]
    (fun listing => by cases listing <;> decide) emptyGateway (fun _ => "") splitting
    versionedBase (some 5) ⟨rfl, by rfl⟩ _ fun _ _ => (3, true)

end OpenSovd.Mcp
