import OpenSovd.DataQueries
import OpenSovd.UriText

/-! The client's requests below its base URI. The join works on text: the base is
printed, one trailing slash is taken off, and the path and the query are put
behind it. A base with a query of its own has that query in the way. -/
namespace OpenSovd.UriJoin
open OpenSovd.Support.PercentEncoding OpenSovd.Support.FormEncoding OpenSovd.Http OpenSovd.UriText
open OpenSovd.DataQueries

/-- `pop` a trailing slash. -/
def popSlash (text : String) : String :=
  if text.toList.getLast? = some '/' then String.ofList text.toList.dropLast else text

/-- `build_uri_with_query`. -/
def buildUriWithQuery (parser : UriParser) (baseUri : Uri) (path : String)
    (query : List (String × String)) : Option Uri :=
  let base := render baseUri
  let base := if path.toList.head? = some '/' then popSlash base else base
  parser.parse (buildUriQueryString (base ++ path) query)

/-- An absolute URI, with its parts as any parser leaves them. -/
structure AbsoluteUri where
  origin : Origin
  path : String
  query : Option String
  rooted : path.toList.head? = some '/'
  pathChars : ∀ char ∈ path.toList, char ∉ ['?', '#']
  queryChars : ∀ text ∈ query, '#' ∉ text.toList

def AbsoluteUri.uri (base : AbsoluteUri) : Uri :=
  ⟨some base.origin.scheme, some base.origin.authority, base.path, base.query⟩

/-- A path for requests: it starts with a slash and has no query or fragment. -/
structure PathText (path : String) : Prop where
  rooted : path.toList.head? = some '/'
  chars : ∀ char ∈ path.toList, char ∉ ['?', '#']

/-- Neither component leaves its pair. -/
def EncodedPair (pair : String × String) : Prop :=
  (∀ char ∈ pair.1.toList, char ∉ ['&', '#']) ∧ ∀ char ∈ pair.2.toList, char ∉ ['&', '#']

def pairText (pair : String × String) : List Char := pair.1.toList ++ '=' :: pair.2.toList

/-- The parts of a query that are not empty. -/
def queryParts (query : Option String) : List (List Char) :=
  ((query.getD "").toList.splitOn '&').filter (· ≠ [])

/-- The URI is the base with the path and the pairs behind it. -/
structure JoinedUri (base : AbsoluteUri) (path : String) (pairs : List (String × String))
    (uri : Uri) : Prop where
  sameScheme : uri.scheme = some base.origin.scheme
  sameAuthority : uri.authority = some base.origin.authority
  pathBehind : uri.path = popSlash base.path ++ path
  pairsBehind : queryParts uri.query = queryParts base.query ++ pairs.map pairText
  noneAdded : base.query = none → pairs = [] → uri.query = none

/-- Nothing is put behind the base: all of its parts end in the slash that is
taken off and put back. -/
def JoinsNothing (base : AbsoluteUri) (path : String) (pairs : List (String × String)) : Prop :=
  path = "/" ∧ pairs = [] ∧ base.path.toList.getLast? = some '/' ∧
    ∃ own, base.query = some own ∧ own.toList.getLast? = some '/'

/-! ### The joined text -/

theorem popSlash_append {front back : String} (nonempty : back ≠ "") :
    popSlash (front ++ back) = front ++ popSlash back := by
  have some : back.toList ≠ [] := fun none => nonempty (String.toList_inj.mp none)
  unfold popSlash
  rw [String.toList_append, List.getLast?_append_of_ne_nil _ some]
  split
  · rw [List.dropLast_append_of_ne_nil some, String.ofList_append, String.ofList_toList]
  · rfl

theorem popSlash_of_slash {text : String} (slash : text.toList.getLast? = some '/') :
    popSlash text ++ "/" = text := by
  rw [popSlash, if_pos slash]
  apply String.toList_inj.mp
  simpa using List.dropLast_append_getLast? '/' slash

theorem mem_popSlash {text : String} {char : Char} (member : char ∈ (popSlash text).toList) :
    char ∈ text.toList := by
  unfold popSlash at member
  split at member
  · rw [String.toList_ofList] at member
    exact List.dropLast_subset _ member
  · exact member

/-- What the base says behind its authority. -/
def restText (base : AbsoluteUri) : String := base.path ++ (base.query.map ("?" ++ ·)).getD ""

theorem render_base (base : AbsoluteUri) : render base.uri = base.origin.text ++ restText base := by
  simp [render, AbsoluteUri.uri, Origin.text, restText, String.append_assoc]

theorem restText_ne_empty (base : AbsoluteUri) : restText base ≠ "" := by
  intro empty
  have chars := congrArg String.toList empty
  rw [restText, String.toList_append] at chars
  have nothing : base.path.toList = [] := (List.append_eq_nil_iff.mp chars).1
  have rooted := base.rooted
  rw [nothing] at rooted
  cases rooted

/-- `build_uri_query_string` behind any text. -/
def tailText (pairs : List (String × String)) : String :=
  if pairs.isEmpty then "" else "?" ++ joinPairs pairs

theorem buildUriQueryString_eq (text : String) (pairs : List (String × String)) :
    buildUriQueryString text pairs = text ++ tailText pairs := by
  unfold buildUriQueryString tailText
  split <;> simp [String.append_assoc]

/-- A slash at the front is still there when one at the end is taken off and a
path is put behind. -/
theorem rooted_join {rest path : String} (rooted : rest.toList.head? = some '/')
    (request : PathText path) (tail : String) :
    (popSlash rest ++ path ++ tail).toList.head? = some '/' := by
  have behind := request.rooted
  cases chars : (popSlash rest).toList with
  | nil =>
    simp only [String.toList_append, chars, List.nil_append, List.head?_append, behind]
    rfl
  | cons first more =>
    have kept : first = '/' := by
      unfold popSlash at chars
      split at chars
      · rw [String.toList_ofList] at chars
        cases shape : rest.toList with
        | nil => simp [shape] at chars
        | cons head others =>
          rw [shape] at rooted chars
          cases rooted
          cases others with
          | nil => cases chars
          | cons => exact (List.cons.inj chars).1.symm
      · rw [chars] at rooted
        exact Option.some.inj rooted
    simp [chars, kept]

/-- What the parser reads: the origin, and the joined text behind it. -/
theorem buildUriWithQuery_eq {parser : UriParser} {base : AbsoluteUri} {path : String}
    {pairs : List (String × String)} {uri : Uri} (request : PathText path)
    (built : buildUriWithQuery parser base.uri path pairs = some uri) :
    uri = ⟨some base.origin.scheme, some base.origin.authority,
      pathPart (popSlash (restText base) ++ path ++ tailText pairs),
      queryPart (popSlash (restText base) ++ path ++ tailText pairs)⟩ := by
  have rooted : (restText base).toList.head? = some '/' := by
    rw [restText, String.toList_append, List.head?_append, base.rooted]
    rfl
  have text : buildUriQueryString (popSlash (render base.uri) ++ path) pairs =
      base.origin.text ++ (popSlash (restText base) ++ path ++ tailText pairs) := by
    rw [buildUriQueryString_eq, render_base, popSlash_append (restText_ne_empty base)]
    simp only [String.append_assoc]
  simp only [buildUriWithQuery, if_pos request.rooted, text] at built
  exact parser.splits _ _ _ (rooted_join rooted request _) built

/-! ### The parts of a query -/

theorem flatten_splitOn (text : List Char) :
    (text.splitOn '&').flatten = text.filter (· ≠ '&') := by
  induction text with
  | nil => rfl
  | cons char rest ih =>
    rw [List.splitOn_cons_eq_if_modifyHead]
    by_cases same : char = '&'
    · simp [same, ih]
    · have some := List.splitOn_ne_nil '&' rest
      obtain ⟨head, others, shape⟩ := List.exists_cons_of_ne_nil some
      rw [shape] at ih
      simp only [List.flatten_cons] at ih
      simp [same, shape, ih]

/-- The parts hold every character but the separators. -/
theorem flatten_queryParts (query : Option String) :
    (queryParts query).flatten = (query.getD "").toList.filter (· ≠ '&') := by
  rw [queryParts, List.flatten_filter_ne_nil, flatten_splitOn]

section Pairs
variable {pairs : List (String × String)}

theorem not_mem_pairText {pair : String × String} (encoded : EncodedPair pair) {char : Char}
    (separates : char = '&' ∨ char = '#') : char ∉ pairText pair := by
  unfold pairText
  rw [List.mem_append, List.mem_cons]
  rintro (key | same | value)
  · exact encoded.1 char key (by simpa using separates)
  · rcases separates with rfl | rfl <;> cases same
  · exact encoded.2 char value (by simpa using separates)

theorem hash_not_mem_joinPairs (encoded : ∀ pair ∈ pairs, EncodedPair pair) :
    '#' ∉ (joinPairs pairs).toList := by
  rw [joinPairs, String.toList_ofList]
  intro member
  rcases mem_intercalate member with same | ⟨part, among, inside⟩
  · cases same
  · obtain ⟨pair, held, rfl⟩ := List.mem_map.mp among
    exact not_mem_pairText (encoded pair held) (Or.inr rfl) inside

/-- The joined pairs are the parts of the query. -/
theorem queryParts_joinPairs (encoded : ∀ pair ∈ pairs, EncodedPair pair) (some : pairs ≠ []) :
    queryParts (Option.some (joinPairs pairs)) = pairs.map pairText := by
  have whole : ∀ part ∈ pairs.map pairText, '&' ∉ part := by
    intro part among
    obtain ⟨pair, held, rfl⟩ := List.mem_map.mp among
    exact not_mem_pairText (encoded pair held) (Or.inl rfl)
  have split : (joinPairs pairs).toList.splitOn '&' = pairs.map pairText := by
    rw [joinPairs, String.toList_ofList]
    exact List.splitOn_intercalate '&' whole (by simpa using some)
  rw [queryParts, Option.getD_some, split]
  refine List.filter_eq_self.mpr fun part among => ?_
  obtain ⟨pair, _, rfl⟩ := List.mem_map.mp among
  simp [pairText]

end Pairs

/-! ### Bases with and without a query -/

section Join
variable {parser : UriParser} {base : AbsoluteUri} {path : String}
  {pairs : List (String × String)} {uri : Uri}

theorem popped_chars (base : AbsoluteUri) (request : PathText path) :
    ∀ char ∈ (popSlash base.path ++ path).toList, char ∉ ['?', '#'] := by
  intro char member
  rw [String.toList_append, List.mem_append] at member
  rcases member with own | asked
  · exact base.pathChars char (mem_popSlash own)
  · exact request.chars char asked

/-- Without a query of its own the base is extended as it should be. -/
theorem joined_of_no_query (none : base.query = none) (request : PathText path)
    (encoded : ∀ pair ∈ pairs, EncodedPair pair)
    (built : buildUriWithQuery parser base.uri path pairs = some uri) :
    JoinedUri base path pairs uri := by
  have plain := popped_chars base request
  have rest : restText base = base.path := by simp [restText, none]
  have read := buildUriWithQuery_eq request built
  rw [rest] at read
  by_cases empty : pairs = []
  · have tail : tailText pairs = "" := by simp [tailText, empty]
    rw [tail, String.append_empty, pathPart_of_plain plain, queryPart_of_plain plain] at read
    subst read
    exact ⟨rfl, rfl, rfl, by simp [none, empty], fun _ _ => rfl⟩
  · have tail : tailText pairs = "?" ++ joinPairs pairs := by simp [tailText, empty]
    rw [tail, ← String.append_assoc, pathPart_append_query plain,
      queryPart_append_query plain (hash_not_mem_joinPairs encoded)] at read
    subst read
    refine ⟨rfl, rfl, rfl, ?_, fun _ nothing => absurd nothing empty⟩
    rw [queryParts_joinPairs encoded empty, none]
    rfl

/-- The characters of a text that are no separators, counted. -/
def weight (text : String) : Nat := (text.toList.filter (· ≠ '&')).length

@[simp] theorem weight_append (front back : String) : weight (front ++ back) = weight front + weight back := by
  simp [weight]

theorem weight_parts (query : Option String) : (queryParts query).flatten.length = weight (query.getD "") := by
  rw [flatten_queryParts, weight]

theorem weight_pairs (encoded : ∀ pair ∈ pairs, EncodedPair pair) :
    (pairs.map pairText).flatten.length = weight (joinPairs pairs) := by
  by_cases empty : pairs = []
  · subst empty
    rfl
  · rw [← queryParts_joinPairs encoded empty, weight_parts]
    rfl

/-- At most one character is taken off, and only a slash. -/
theorem weight_popSlash (text : String) :
    weight text = weight (popSlash text) + if text.toList.getLast? = some '/' then 1 else 0 := by
  by_cases slash : text.toList.getLast? = some '/'
  · rw [if_pos slash]
    calc weight text = weight (popSlash text ++ "/") := by rw [popSlash_of_slash slash]
      _ = weight (popSlash text) + 1 := weight_append _ _
  · rw [if_neg slash, popSlash, if_neg slash]
    rfl

/-- With a query of its own the base keeps its path, and everything else goes
into the query. -/
theorem joined_behind_query {own : String} (held : base.query = some own) (request : PathText path)
    (encoded : ∀ pair ∈ pairs, EncodedPair pair)
    (built : buildUriWithQuery parser base.uri path pairs = some uri) :
    uri = ⟨some base.origin.scheme, some base.origin.authority, base.path,
      some (popSlash own ++ path ++ tailText pairs)⟩ := by
  have rest : popSlash (restText base) = base.path ++ "?" ++ popSlash own := by
    have shape : restText base = base.path ++ ("?" ++ own) := by simp [restText, held]
    have mark : popSlash ("?" ++ own) = "?" ++ popSlash own := by
      by_cases empty : own = ""
      · subst empty
        rfl
      · exact popSlash_append empty
    rw [shape, popSlash_append (by simp), mark, String.append_assoc]
  have whole : '#' ∉ (popSlash own ++ path ++ tailText pairs).toList := by
    simp only [String.toList_append, List.mem_append]
    rintro ((here | asked) | behind)
    · exact base.queryChars own held (mem_popSlash here)
    · exact request.chars _ asked (by simp)
    · unfold tailText at behind
      split at behind
      · cases behind
      · rw [String.toList_append, List.mem_append] at behind
        rcases behind with mark | inside
        · exact absurd mark (by decide)
        · exact hash_not_mem_joinPairs encoded inside
  have behind : base.path ++ "?" ++ popSlash own ++ path ++ tailText pairs =
      base.path ++ "?" ++ (popSlash own ++ path ++ tailText pairs) := by simp [String.append_assoc]
  have read := buildUriWithQuery_eq request built
  rw [rest, behind, pathPart_append_query base.pathChars,
    queryPart_append_query base.pathChars whole] at read
  exact read

theorem joined_iff_of_query {own : String} (held : base.query = some own) (request : PathText path)
    (encoded : ∀ pair ∈ pairs, EncodedPair pair)
    (built : buildUriWithQuery parser base.uri path pairs = some uri) :
    JoinedUri base path pairs uri ↔ JoinsNothing base path pairs := by
  have read := joined_behind_query held request encoded built
  subst read
  constructor
  · intro joined
    have same : base.path = popSlash base.path ++ path := joined.pathBehind
    have slash : base.path.toList.getLast? = some '/' := by
      by_contra open_
      have kept : popSlash base.path = base.path := by rw [popSlash, if_neg open_]
      rw [kept] at same
      have chars := congrArg String.toList same
      have nothing : path.toList = [] := by simpa using chars
      have rooted := request.rooted
      rw [nothing] at rooted
      cases rooted
    have root : path = "/" := by
      have shape := (popSlash_of_slash slash).trans same
      exact ((String.append_right_inj _).mp shape).symm
    subst root
    have lengths := congrArg (fun parts => parts.flatten.length) joined.pairsBehind
    simp only [List.flatten_append, List.length_append, weight_parts, weight_pairs encoded, held,
      Option.getD_some, weight_append] at lengths
    have one : weight "/" = 1 := rfl
    have popped := weight_popSlash own
    by_cases empty : pairs = []
    · subst empty
      have tail : weight (tailText []) = weight (joinPairs []) := rfl
      refine ⟨rfl, rfl, slash, own, held, ?_⟩
      by_contra open_
      rw [if_neg open_] at popped
      omega
    · have tail : weight (tailText pairs) = 1 + weight (joinPairs pairs) := by
        simp only [tailText, List.isEmpty_iff, empty, ↓reduceIte, weight_append]
        rfl
      split at popped <;> omega
  · rintro ⟨rfl, rfl, slash, own', held', slash'⟩
    cases held.symm.trans held'
    have tail : tailText [] = "" := rfl
    rw [tail, String.append_empty, popSlash_of_slash slash']
    refine ⟨rfl, rfl, (popSlash_of_slash slash).symm, by simp [held], fun none => ?_⟩
    rw [held] at none
    cases none

end Join

/-- **Requests go to the base with the path and the pairs behind it** exactly
when the base has no query of its own, or nothing is put behind it. -/
theorem joined_uri_iff {parser : UriParser} {base : AbsoluteUri} {path : String}
    {pairs : List (String × String)} {uri : Uri} (request : PathText path)
    (encoded : ∀ pair ∈ pairs, EncodedPair pair)
    (built : buildUriWithQuery parser base.uri path pairs = some uri) :
    JoinedUri base path pairs uri ↔ base.query = none ∨ JoinsNothing base path pairs := by
  cases held : base.query with
  | none => exact iff_of_true (joined_of_no_query held request encoded built) (Or.inl rfl)
  | some own =>
    rw [joined_iff_of_query held request encoded built, or_iff_right (by simp)]

def vehicle : Origin := ⟨"http", "vehicle", by simp, by simp⟩

def versionedBase : AbsoluteUri := ⟨vehicle, "/sovd/v1", none, rfl, by simp, nofun⟩

/-- A base that routes by a query of its own. -/
def tenantBase : AbsoluteUri := ⟨vehicle, "/sovd/v1", some "tenant=7", rfl, by simp, by simp⟩

theorem schema_request_joined :
    JoinedUri versionedBase "/components" [("include-schema", "true")]
      ⟨some "http", some "vehicle", "/sovd/v1/components", some "include-schema=true"⟩ :=
  have built : buildUriWithQuery splitting versionedBase.uri "/components" [("include-schema", "true")] =
      some ⟨some "http", some "vehicle", "/sovd/v1/components", some "include-schema=true"⟩ := by rfl
  (joined_uri_iff ⟨rfl, by simp⟩ (by simp [EncodedPair]) built).mpr (Or.inl rfl)

/-- The path ends up in the query of the base. -/
theorem path_lost_in_base_query :
    buildUriWithQuery splitting tenantBase.uri "/components" [("include-schema", "true")] =
        some ⟨some "http", some "vehicle", "/sovd/v1", some "tenant=7/components?include-schema=true"⟩ ∧
      ¬ JoinedUri tenantBase "/components" [("include-schema", "true")]
        ⟨some "http", some "vehicle", "/sovd/v1", some "tenant=7/components?include-schema=true"⟩ := by
  refine ⟨by rfl, fun joined => ?_⟩
  exact absurd joined.pathBehind (by decide)

end OpenSovd.UriJoin
