import OpenSovd.Routes

/-! The base path. The same configured path decides where the router is mounted
and which prefix the links carry. Nesting joins a prefix that ends in a slash
without doubling it, but the links are put together by plain concatenation, so
the two agree exactly when the path does not end in a slash or is the root. -/
namespace OpenSovd.BasePath
open OpenSovd.Support.PercentEncoding OpenSovd.Routes

/-- The base URI as configured: the mount path, and the scheme if one was given. -/
structure BaseConfig where
  path : String
  scheme : Option String

/-- What the server advertises. -/
structure BaseUri where
  scheme : String
  path : String

/-- `None` mounts at the root. A leading slash is added if it is missing. -/
def normalizeBase (base : String) : Option String :=
  match base.toList with
  | [] | ['/'] => none
  | '/' :: _ => some base
  | _ => some ("/" ++ base)

/-! ### Where the routes are mounted -/

/-- How nesting joins a prefix and an inner route. -/
def nestPath (outer path : String) : String :=
  if outer.toList.getLast? = some '/' then
    outer ++ String.ofList (path.toList.dropWhile (· == '/'))
  else if path = "/" then outer
  else outer ++ path

/-- `build_router` around `router`: an inner route below the version prefix, at
the base path if there is one. -/
def mountPath (base path : String) : String :=
  match normalizeBase base with
  | some outer => nestPath outer (nestPath "/v1" path)
  | none => nestPath "/v1" path

/-- The inner route for the given segments; the root route is `/`. -/
def innerPath (raw : List String) : String := if raw = [] then "/" else pathOf raw

/-- A request with this path reaches the route: its segments are those of the
mounted template, with the route's parameters in place. -/
def Reaches (base path : String) (route : Route) : Prop :=
  ∃ raw, (∀ segment ∈ raw, '/' ∉ segment.toList) ∧ matchRoute ("" :: raw) = some route ∧
    segments path = segments (mountPath base (innerPath raw))

/-! ### What is advertised -/

/-- Local TLS wins over a configured scheme, which wins over `http`. -/
def advertised (config : BaseConfig) (isTls : Bool) : BaseUri where
  scheme := if isTls then "https" else config.scheme.getD "http"
  path := (normalizeBase config.path).getD ""

def authority (uri : BaseUri) (host : String) : String := uri.scheme ++ "://" ++ host

def baseUri (uri : BaseUri) (host : String) : String := authority uri host ++ uri.path

def versionedUri (uri : BaseUri) (host : String) : String := baseUri uri host ++ "/v1"

/-- The link to a route. The version info advertises the one to the root. -/
def link (uri : BaseUri) (host : String) (route : Route) : String :=
  versionedUri uri host ++ pathOf (route.segmentsWith encodePathSegment)

/-- The link's path is where its route is mounted, and requesting it reaches
that route. -/
structure LinkWorks (config : BaseConfig) (isTls : Bool) (host : String) (route : Route) : Prop where
  mounted : link (advertised config isTls) host route = authority (advertised config isTls) host ++
    mountPath config.path (innerPath (route.segmentsWith encodePathSegment))
  reached : ∀ path,
    link (advertised config isTls) host route = authority (advertised config isTls) host ++ path →
    Reaches config.path path route

/-- The path is the root or does not end in a slash. -/
def Clean (base : String) : Prop := base = "/" ∨ base.toList.getLast? ≠ some '/'

/-! ### Agreement -/

theorem pathOf_eq_root {raw : List String} (same : pathOf raw = "/") : raw = [""] := by
  cases raw with
  | nil => simp [pathOf] at same
  | cons segment rest =>
    have chars := congrArg String.toList same
    simp only [pathOf_cons, String.toList_append] at chars
    obtain ⟨_, nothing⟩ := List.cons.inj chars
    obtain ⟨first, later⟩ := List.append_eq_nil_iff.mp nothing
    have rest_nil : rest = [] := by
      cases rest with
      | nil => rfl
      | cons => simp [pathOf_cons] at later
    rw [rest_nil, String.toList_inj.mp (first.trans (String.toList_ofList (l := [])).symm)]

/-- Below the version prefix nothing is doubled or lost. -/
theorem nest_version {raw : List String} (proper : raw ≠ [""]) :
    nestPath "/v1" (innerPath raw) = "/v1" ++ pathOf raw := by
  have open_ : ("/v1" : String).toList.getLast? ≠ some '/' := by decide
  rw [nestPath, if_neg open_]
  by_cases root : raw = []
  · simp [innerPath, root, pathOf]
  · have inner : pathOf raw ≠ "/" := fun same => proper (pathOf_eq_root same)
    rw [innerPath, if_neg root, if_neg inner]

theorem normalizeBase_absolute {base : String} (absolute : base.toList.head? = some '/')
    (inner : base ≠ "/") : normalizeBase base = some base := by
  have chars : base.toList ≠ ['/'] := fun same => inner (String.toList_inj.mp same)
  unfold normalizeBase
  split
  · rename_i none
    simp [none] at absolute
  · rename_i root
    exact absurd root chars
  · rfl
  · rename_i _ rel
    cases shape : base.toList with
    | nil => simp [shape] at absolute
    | cons first rest =>
      rw [shape] at absolute
      cases absolute
      exact absurd shape (rel rest)

/-- A clean base path is joined by plain concatenation. -/
theorem mountPath_clean {base : String} (absolute : base.toList.head? = some '/')
    (clean : Clean base) {raw : List String} (proper : raw ≠ [""]) :
    mountPath base (innerPath raw) = (normalizeBase base).getD "" ++ "/v1" ++ pathOf raw := by
  by_cases root : base = "/"
  · subst root
    simp [mountPath, normalizeBase, nest_version proper]
  · have closed : base.toList.getLast? ≠ some '/' := clean.resolve_left root
    have inner : "/v1" ++ pathOf raw ≠ "/" := by
      intro same
      simpa using congrArg String.toList same
    rw [mountPath, normalizeBase_absolute absolute root]
    have joined : nestPath base (nestPath "/v1" (innerPath raw)) = base ++ ("/v1" ++ pathOf raw) := by
      rw [nest_version proper, nestPath, if_neg closed, if_neg inner]
    simpa [String.append_assoc] using joined

/-- A base path that ends in a slash gives that slash up to the inner route. -/
theorem mountPath_slash {front : String} (absolute : (front ++ "/").toList.head? = some '/')
    (inner : front ++ "/" ≠ "/") {raw : List String} (proper : raw ≠ [""]) :
    mountPath (front ++ "/") (innerPath raw) = front ++ "/" ++ "v1" ++ pathOf raw := by
  have slash : (front ++ "/").toList.getLast? = some '/' := by simp
  rw [mountPath, normalizeBase_absolute absolute inner]
  have joined : nestPath (front ++ "/") (nestPath "/v1" (innerPath raw)) =
      front ++ "/" ++ String.ofList (("/v1" ++ pathOf raw).toList.dropWhile (· == '/')) := by
    rw [nest_version proper, nestPath, if_pos slash]
  refine joined.trans (String.toList_inj.mp ?_)
  simp

theorem ends_in_slash {base : String} (unclean : ¬ Clean base) :
    base ≠ "/" ∧ ∃ front, base = front ++ "/" := by
  unfold Clean at unclean
  obtain ⟨inner, slash⟩ := not_or.mp unclean
  obtain ⟨front, shape⟩ := List.getLast?_eq_some_iff.mp (not_not.mp slash)
  refine ⟨inner, String.ofList front, ?_⟩
  apply String.toList_inj.mp
  simpa using shape

/-- The path part of a link. -/
def linkPath (base : String) (route : Route) : String :=
  (normalizeBase base).getD "" ++ "/v1" ++ pathOf (route.segmentsWith encodePathSegment)

theorem link_eq (config : BaseConfig) (isTls : Bool) (host : String) (route : Route) :
    link (advertised config isTls) host route =
      authority (advertised config isTls) host ++ linkPath config.path route := by
  simp [link, versionedUri, baseUri, linkPath, advertised, String.append_assoc]

theorem route_segments_proper (encode : String → String) (route : Route) :
    route.segmentsWith encode ≠ [""] := by
  cases route <;> simp [Route.segmentsWith]

/-- Behind a clean base path a link leads to its route. -/
theorem reaches_clean {base : String} (absolute : base.toList.head? = some '/')
    (clean : Clean base) {route : Route} (ending : route.ending ≠ some "") :
    Reaches base (linkPath base route) route := by
  have matched := matchRoute_segments serverEncoder ending
  have whole := slash_not_mem_segments serverEncoder route
  have proper := route_segments_proper encodePathSegment route
  refine ⟨route.segmentsWith encodePathSegment, whole, matched, ?_⟩
  rw [mountPath_clean absolute clean proper, linkPath]

/-- Behind a base path that ends in a slash no link leads to its route: there
is one segment too many. -/
theorem unclean_unreachable {base : String} (absolute : base.toList.head? = some '/')
    (unclean : ¬ Clean base) (route : Route) : ¬ Reaches base (linkPath base route) route := by
  rintro ⟨raw, whole, matched, same⟩
  obtain ⟨inner, front, rfl⟩ := ends_in_slash unclean
  have proper : raw ≠ [""] := by
    rintro rfl
    cases matched
  have size := (matchRoute_shape matched encodePathSegment).2
  have plainSegments : ∀ segment ∈ route.segmentsWith encodePathSegment, '/' ∉ segment.toList :=
    slash_not_mem_segments serverEncoder route
  have advertisedSegments : segments (linkPath (front ++ "/") route) =
      segments front ++ segments "/v1" ++ route.segmentsWith encodePathSegment := by
    rw [linkPath, normalizeBase_absolute absolute inner, Option.getD_some,
      segments_append_pathOf plainSegments, segments_join]
  have mountedSegments : segments (mountPath (front ++ "/") (innerPath raw)) =
      segments front ++ segments "v1" ++ raw := by
    rw [mountPath_slash absolute inner proper, segments_append_pathOf whole, segments_join]
  have version : segments "/v1" = ["", "v1"] := rfl
  have plain : segments "v1" = ["v1"] := rfl
  rw [advertisedSegments, mountedSegments, version, plain] at same
  have lengths := congrArg List.length same
  simp only [List.length_append, List.length_cons, List.length_nil] at lengths size
  omega

/-- **The advertised base path is the mount path** exactly when it is the root
or does not end in a slash; then every link reaches its route that does not end
in an empty id. -/
theorem link_works_iff_base_clean (config : BaseConfig) (isTls : Bool) (host : String)
    (route : Route) (absolute : config.path.toList.head? = some '/') :
    LinkWorks config isTls host route ↔
      Clean config.path ∧ route.ending ≠ some "" := by
  have split := link_eq config isTls host route
  constructor
  · intro works
    have reached := works.reached _ split
    have clean : Clean config.path := by
      by_contra unclean
      exact unclean_unreachable absolute unclean route reached
    obtain ⟨raw, _, matched, _⟩ := reached
    exact ⟨clean, (matchRoute_shape matched encodePathSegment).1⟩
  · rintro ⟨clean, ending⟩
    have proper := route_segments_proper encodePathSegment route
    refine ⟨?_, fun path same => ?_⟩
    · rw [split, mountPath_clean absolute clean proper, linkPath]
    · have here : linkPath config.path route = path := by
        rw [split] at same
        exact String.append_right_inj _ |>.mp same
      rw [← here]
      exact reaches_clean absolute clean ending

theorem sovd_link_works :
    LinkWorks ⟨"/sovd", none⟩ false "localhost" (.componentCapabilities "ecu") :=
  (link_works_iff_base_clean ⟨"/sovd", none⟩ false "localhost" _ (by decide)).mpr
    ⟨.inr (by decide), by simp [Route.ending]⟩

/-- Configured as `/sovd/`, the server advertises `/sovd//v1` and answers at
`/sovd/v1`. -/
theorem trailing_slash_link_is_dead :
    link (advertised ⟨"/sovd/", none⟩ false) "localhost" .rootCapabilities =
        "http://localhost/sovd//v1" ∧
      mountPath "/sovd/" (innerPath []) = "/sovd/v1" ∧
      ¬ LinkWorks ⟨"/sovd/", none⟩ false "localhost" .rootCapabilities := by
  refine ⟨by rfl, by rfl, fun works => ?_⟩
  have reached := works.reached _ (link_eq _ false "localhost" .rootCapabilities)
  have unclean : ¬ Clean "/sovd/" := by simp [Clean]
  exact unclean_unreachable (by decide) unclean _ reached

end OpenSovd.BasePath
