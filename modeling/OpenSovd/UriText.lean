import Mathlib.Data.List.TakeWhile
import OpenSovd.Http

/-! Absolute URIs as text: printing one, and what a parser reads off a text that
starts with a scheme and an authority. The path goes up to the first question
mark or hash, the query up to the first hash. -/
namespace OpenSovd.UriText
open OpenSovd.Http

/-- A scheme and an authority; schemes are kept in lower case. -/
structure Origin where
  scheme : String
  authority : String
  schemeChars : ∀ char ∈ scheme.toList, char ≠ ':' ∧ char.isUpper = false
  authorityChars : ∀ char ∈ authority.toList, char ∉ ['/', '?', '#']

def Origin.text (origin : Origin) : String := origin.scheme ++ "://" ++ origin.authority

/-- `Display` of a URI. -/
def render (uri : Uri) : String :=
  (uri.scheme.map (· ++ "://")).getD "" ++ uri.authority.getD "" ++ uri.path ++
    (uri.query.map ("?" ++ ·)).getD ""

/-- What precedes the query and the fragment. -/
def pathPart (rest : String) : String :=
  String.ofList (rest.toList.takeWhile fun char => char ∉ ['?', '#'])

/-- What is between the first question mark and the fragment. -/
def queryPart (rest : String) : Option String :=
  match rest.toList.dropWhile fun char => char ∉ ['?', '#'] with
  | '?' :: query => some (String.ofList (query.takeWhile (· ≠ '#')))
  | _ => none

/-- A URI parser: what it reads behind a scheme and an authority, if it accepts
the text at all. -/
structure UriParser where
  parse : String → Option Uri
  splits : ∀ (origin : Origin) (rest : String) (uri : Uri), rest.toList.head? = some '/' →
    parse (origin.text ++ rest) = some uri →
    uri = ⟨some origin.scheme, some origin.authority, pathPart rest, queryPart rest⟩

/-! ### Paths and queries -/

section Parts
variable {path query : String}

theorem pathPart_of_plain (plain : ∀ char ∈ path.toList, char ∉ ['?', '#']) : pathPart path = path := by
  have whole : path.toList.takeWhile (fun char => char ∉ ['?', '#']) = path.toList :=
    List.takeWhile_eq_self_iff.mpr fun char member => by simpa using plain char member
  rw [pathPart, whole, String.ofList_toList]

theorem queryPart_of_plain (plain : ∀ char ∈ path.toList, char ∉ ['?', '#']) :
    queryPart path = none := by
  have nothing : path.toList.dropWhile (fun char => char ∉ ['?', '#']) = [] :=
    List.dropWhile_eq_nil_iff.mpr fun char member => by simpa using plain char member
  rw [queryPart, nothing]

theorem pathPart_append_query (plain : ∀ char ∈ path.toList, char ∉ ['?', '#']) :
    pathPart (path ++ "?" ++ query) = path := by
  have shape : (path ++ "?" ++ query).toList = path.toList ++ '?' :: query.toList := by simp
  have split : (path.toList ++ '?' :: query.toList).takeWhile (fun char => char ∉ ['?', '#']) =
      path.toList := by
    rw [List.takeWhile_append_of_pos fun char member => by simpa using plain char member]
    simp
  rw [pathPart, shape, split, String.ofList_toList]

theorem queryPart_append_query (plain : ∀ char ∈ path.toList, char ∉ ['?', '#'])
    (whole : '#' ∉ query.toList) : queryPart (path ++ "?" ++ query) = some query := by
  have shape : (path ++ "?" ++ query).toList = path.toList ++ '?' :: query.toList := by simp
  have split : (path.toList ++ '?' :: query.toList).dropWhile (fun char => char ∉ ['?', '#']) =
      '?' :: query.toList := by
    rw [List.dropWhile_append_of_pos fun char member => by simpa using plain char member]
    simp
  have all : query.toList.takeWhile (· ≠ '#') = query.toList :=
    List.takeWhile_eq_self_iff.mpr fun char member =>
      decide_eq_true fun same => whole (same ▸ member)
  simp only [queryPart, shape, split, all, String.ofList_toList]

end Parts

/-! ### A parser that only splits -/

/-- Splits any text with a scheme and an authority. -/
def split (text : String) : Option Uri :=
  match text.toList.dropWhile (· ≠ ':') with
  | ':' :: '/' :: '/' :: behind =>
    let rest := String.ofList (behind.dropWhile fun char => char ∉ ['/', '?', '#'])
    some ⟨some (String.ofList (text.toList.takeWhile (· ≠ ':'))),
      some (String.ofList (behind.takeWhile fun char => char ∉ ['/', '?', '#'])),
      pathPart rest, queryPart rest⟩
  | _ => none

theorem split_origin (origin : Origin) {rest : String} (rooted : rest.toList.head? = some '/') :
    split (origin.text ++ rest) =
      some ⟨some origin.scheme, some origin.authority, pathPart rest, queryPart rest⟩ := by
  obtain ⟨scheme, authority, schemeChars, authorityChars⟩ := origin
  have shape : (scheme ++ "://" ++ authority ++ rest).toList =
      scheme.toList ++ ':' :: '/' :: '/' :: (authority.toList ++ rest.toList) := by simp
  have front : ∀ char ∈ scheme.toList, decide (char ≠ ':') = true := fun char member =>
    decide_eq_true (schemeChars char member).1
  have middle : ∀ char ∈ authority.toList, decide (char ∉ ['/', '?', '#']) = true :=
    fun char member => decide_eq_true (authorityChars char member)
  obtain ⟨tail, start⟩ : ∃ tail, rest.toList = '/' :: tail := by
    cases chars : rest.toList with
    | nil => simp [chars] at rooted
    | cons first tail =>
      rw [chars] at rooted
      cases rooted
      exact ⟨tail, rfl⟩
  have stop : rest.toList.takeWhile (fun char => char ∉ ['/', '?', '#']) = [] := by simp [start]
  have keep : rest.toList.dropWhile (fun char => char ∉ ['/', '?', '#']) = rest.toList := by
    simp [start]
  simp only [split, Origin.text, shape]
  rw [List.dropWhile_append_of_pos front, List.takeWhile_append_of_pos front]
  simp only [ne_eq, not_true_eq_false, decide_false, Bool.false_eq_true, not_false_eq_true,
    List.dropWhile_cons_of_neg, List.takeWhile_cons_of_neg, List.append_nil, String.ofList_toList]
  rw [List.dropWhile_append_of_pos middle, List.takeWhile_append_of_pos middle, stop, keep]
  simp only [List.append_nil, String.ofList_toList]

def splitting : UriParser where
  parse := split
  splits origin rest uri rooted parsed := by
    rw [split_origin origin rooted] at parsed
    exact (Option.some.inj parsed).symm

end OpenSovd.UriText
