import OpenSovd.Support.PercentEncoding

/-! The syntax of URI references, character by character: escapes, the parts of
an authority, the shapes of a path, and what may follow it. Whatever is valid
consists of the characters the grammar names, so one that is not among them
makes any reference around it invalid. -/
namespace OpenSovd.Support.UriSyntax
open PercentEncoding

/-! ### Characters -/

def isUnreserved (char : Char) : Bool := char.isAlphanum || ['-', '.', '_', '~'].contains char

def isSubDelim (char : Char) : Bool :=
  ['!', '$', '&', Char.ofNat 0x27, '(', ')', '*', '+', ',', ';', '='].contains char

def isGenDelim (char : Char) : Bool := [':', '/', '?', '#', '[', ']', '@'].contains char

def isPchar (char : Char) : Bool :=
  isUnreserved char || isSubDelim char || char == ':' || char == '@'

/-- The characters of the grammar. -/
def isUriChar (char : Char) : Bool :=
  isUnreserved char || isSubDelim char || isGenDelim char || char == '%'

/-- Allowed characters and well-formed escapes. -/
inductive Encoded (allowed : Char → Bool) : List Char → Prop where
  | nil : Encoded allowed []
  | literal {char : Char} {rest : List Char} (fine : allowed char = true)
      (behind : Encoded allowed rest) : Encoded allowed (char :: rest)
  | escape {high low : Char} {rest : List Char} (first : high.isHexDigit = true)
      (second : low.isHexDigit = true) (behind : Encoded allowed rest) :
      Encoded allowed ('%' :: high :: low :: rest)

/-! ### The authority -/

def IsH16 (text : List Char) : Prop :=
  1 ≤ text.length ∧ text.length ≤ 4 ∧ ∀ char ∈ text, char.isHexDigit = true

def IsDecOctet (text : List Char) : Prop := ∃ n < 256, text = (toString n).toList

def IsIPv4 (text : List Char) : Prop :=
  ∃ parts : List (List Char), parts.length = 4 ∧ (∀ part ∈ parts, IsDecOctet part) ∧
    text = ['.'].intercalate parts

/-- Groups of an IPv6 address, and how many they count for; the last can be an
IPv4 address, which counts for two. -/
inductive Groups : Nat → List (List Char) → Prop where
  | nil : Groups 0 []
  | ipv4 {last : List Char} (address : IsIPv4 last) : Groups 2 [last]
  | h16 {n : Nat} {first : List Char} {rest : List (List Char)} (group : IsH16 first)
      (behind : Groups n rest) : Groups (n + 1) (first :: rest)

/-- All eight groups, or at most seven around a double colon. -/
def IsIPv6 (text : List Char) : Prop :=
  (∃ groups, Groups 8 groups ∧ text = [':'].intercalate groups) ∨
    ∃ n front back, (∀ group ∈ front, IsH16 group) ∧ Groups n back ∧ front.length + n ≤ 7 ∧
      text = [':'].intercalate front ++ [':', ':'] ++ [':'].intercalate back

def IsIPvFuture (text : List Char) : Prop :=
  ∃ mark version address, mark ∈ ['v', 'V'] ∧ version ≠ [] ∧
    (∀ char ∈ version, char.isHexDigit = true) ∧ address ≠ [] ∧
    (∀ char ∈ address, (isUnreserved char || isSubDelim char || char == ':') = true) ∧
    text = mark :: version ++ '.' :: address

/-- A name, which an IPv4 address also is, or an address in brackets. -/
inductive IsHost : List Char → Prop where
  | regName {text : List Char} (name : Encoded (fun c => isUnreserved c || isSubDelim c) text) :
      IsHost text
  | ipLiteral {text : List Char} (address : IsIPv6 text ∨ IsIPvFuture text) :
      IsHost ('[' :: text ++ [']'])

def IsAuthority (text : List Char) : Prop :=
  ∃ userInfo host port, text = userInfo ++ host ++ port ∧ IsHost host ∧
    (userInfo = [] ∨ ∃ info, userInfo = info ++ ['@'] ∧
      Encoded (fun c => isUnreserved c || isSubDelim c || c == ':') info) ∧
    (port = [] ∨ ∃ digits, port = ':' :: digits ∧ ∀ char ∈ digits, char.isDigit = true)

/-! ### References -/

structure IsScheme (text : List Char) : Prop where
  first : ∃ char rest, text = char :: rest ∧ char.isAlpha = true
  chars : ∀ char ∈ text, (char.isAlphanum || ['+', '-', '.'].contains char) = true

abbrev Segment (text : List Char) : Prop := Encoded isPchar text

/-- Segments, with a slash before each. -/
def slashed (segs : List (List Char)) : List Char := segs.flatMap ('/' :: ·)

/-- The hierarchical part. A relative reference starts with no colon in its first
segment, so that none is taken for a scheme. -/
inductive IsHierPart (relative : Bool) : List Char → Prop where
  | authority {authority : List Char} {segs : List (List Char)} (valid : IsAuthority authority)
      (path : ∀ seg ∈ segs, Segment seg) :
      IsHierPart relative ('/' :: '/' :: authority ++ slashed segs)
  | absolute {first : List Char} {segs : List (List Char)} (some : first ≠ []) (start : Segment first)
      (path : ∀ seg ∈ segs, Segment seg) : IsHierPart relative ('/' :: first ++ slashed segs)
  | root : IsHierPart relative ['/']
  | rootless {first : List Char} {segs : List (List Char)} (some : first ≠ []) (start : Segment first)
      (plain : relative = true → ':' ∉ first) (path : ∀ seg ∈ segs, Segment seg) :
      IsHierPart relative (first ++ slashed segs)
  | empty : IsHierPart relative []

/-- Query and fragment text. -/
abbrev Trailing (text : List Char) : Prop := Encoded (fun c => isPchar c || c == '/' || c == '?') text

def IsSuffix (text : List Char) : Prop :=
  ∃ query fragment, text = query ++ fragment ∧
    (query = [] ∨ ∃ inside, query = '?' :: inside ∧ Trailing inside) ∧
    (fragment = [] ∨ ∃ inside, fragment = '#' :: inside ∧ Trailing inside)

inductive IsUriReference : List Char → Prop where
  | uri {scheme part suffix : List Char} (valid : IsScheme scheme) (hier : IsHierPart false part)
      (behind : IsSuffix suffix) : IsUriReference (scheme ++ ':' :: part ++ suffix)
  | relative {part suffix : List Char} (hier : IsHierPart true part) (behind : IsSuffix suffix) :
      IsUriReference (part ++ suffix)

/-- An absolute URI with an authority, up to its path. -/
def IsBase (text : List Char) : Prop :=
  ∃ scheme authority segs, IsScheme scheme ∧ IsAuthority authority ∧ (∀ seg ∈ segs, Segment seg) ∧
    text = scheme ++ ':' :: '/' :: '/' :: authority ++ slashed segs

/-! ### Escaped text -/

namespace Encoded
variable {allowed : Char → Bool}

theorem append {front back : List Char} (first : Encoded allowed front) (second : Encoded allowed back) :
    Encoded allowed (front ++ back) := by
  induction first with
  | nil => exact second
  | literal fine _ ih => exact .literal fine ih
  | escape high low _ ih => exact .escape high low ih

theorem mem {text : List Char} (encoded : Encoded allowed text) {char : Char} (member : char ∈ text) :
    allowed char = true ∨ char = '%' ∨ char.isHexDigit = true := by
  induction encoded with
  | nil => cases member
  | literal fine _ ih =>
    rcases List.mem_cons.mp member with rfl | behind
    · exact Or.inl fine
    · exact ih behind
  | escape high low _ ih =>
    simp only [List.mem_cons] at member
    rcases member with rfl | rfl | rfl | behind
    · exact Or.inr (Or.inl rfl)
    · exact Or.inr (Or.inr high)
    · exact Or.inr (Or.inr low)
    · exact ih behind

/-- Text that needs no escapes. -/
theorem of_all {text : List Char} (fine : ∀ char ∈ text, allowed char = true) :
    Encoded allowed text := by
  induction text with
  | nil => exact .nil
  | cons char rest ih =>
    obtain ⟨first, others⟩ := List.forall_mem_cons.mp fine
    exact .literal first (ih others)

end Encoded

theorem encoded_flatMap {α : Type} {allowed : Char → Bool} {write : α → List Char} {items : List α}
    (each : ∀ item ∈ items, Encoded allowed (write item)) : Encoded allowed (items.flatMap write) := by
  induction items with
  | nil => exact .nil
  | cons item rest ih =>
    rw [List.flatMap_cons]
    exact (each item (.head _)).append (ih fun other member => each other (.tail _ member))

theorem isHexDigit_hexDigit : ∀ n, (hexDigit n).isHexDigit = true := by decide

/-- A character that is not escaped is still there. -/
theorem literal_mem_flatMap {set : AsciiSet} {text : String} {byte : UInt8} (ascii : byte < 0x80)
    (escaped : ¬ set.contains byte = true) (member : Char.ofUInt8 byte ∈ text.toList) :
    Char.ofUInt8 byte ∈ (bytes text).flatMap (encodeByte set) := by
  have kept : set.shouldPercentEncode byte = false := by
    simpa [AsciiSet.shouldPercentEncode, escaped] using ascii
  exact List.mem_flatMap.mpr ⟨byte, (mem_bytes_ascii ascii).mpr member, by simp [encodeByte, kept]⟩

/-- **A percent-encoded text is well-formed** exactly when every ASCII character
of the text is escaped or allowed. -/
theorem encoded_utf8PercentEncode_iff {set : AsciiSet} {allowed : Char → Bool}
    (percent : set.contains '%'.toUInt8 = true)
    (digits : ∀ char, char.isHexDigit = true → allowed char = true) {text : String} :
    Encoded allowed (utf8PercentEncode set text).toList ↔
      ∀ byte < 0x80, Char.ofUInt8 byte ∈ text.toList →
        set.contains byte = true ∨ allowed (Char.ofUInt8 byte) = true := by
  rw [utf8PercentEncode, String.toList_ofList]
  constructor
  · intro encoded byte ascii member
    by_cases escaped : set.contains byte = true
    · exact Or.inl escaped
    · rcases encoded.mem (literal_mem_flatMap ascii escaped member) with fine | same | digit
      · exact Or.inr fine
      · rw [eq_toUInt8_of_ofUInt8 same] at escaped
        exact absurd percent escaped
      · exact Or.inr (digits _ digit)
  · intro fine
    have each : ∀ byte ∈ bytes text, Encoded allowed (encodeByte set byte) := by
      intro byte member
      unfold encodeByte
      split
      · exact .escape (isHexDigit_hexDigit _) (isHexDigit_hexDigit _) .nil
      · rename_i literal
        simp only [AsciiSet.shouldPercentEncode, Bool.or_eq_true, decide_eq_true_eq, not_or] at literal
        have ascii : byte < 0x80 := UInt8.not_le.mp literal.1
        have plain := fine byte ascii ((mem_bytes_ascii ascii).mp member)
        exact .literal (plain.resolve_left literal.2) .nil
    exact encoded_flatMap each

/-! ### The characters of a reference -/

/-- Every character is one of the grammar. -/
def UriChars (text : List Char) : Prop := ∀ char ∈ text, isUriChar char = true

theorem uriChars_nil : UriChars [] := nofun

theorem uriChars_append {front back : List Char} :
    UriChars (front ++ back) ↔ UriChars front ∧ UriChars back := List.forall_mem_append

theorem uriChars_cons {char : Char} {rest : List Char} :
    UriChars (char :: rest) ↔ isUriChar char = true ∧ UriChars rest := List.forall_mem_cons

theorem uriChars_intercalate {separator : Char} (fine : isUriChar separator = true)
    {parts : List (List Char)} (each : ∀ part ∈ parts, UriChars part) :
    UriChars ([separator].intercalate parts) := by
  intro char member
  rcases mem_intercalate member with rfl | ⟨part, among, inside⟩
  · exact fine
  · exact each part among char inside

theorem isAlphanum_of_isHexDigit {char : Char} (digit : char.isHexDigit = true) :
    char.isAlphanum = true := by
  rcases Bool.or_eq_true_iff.mp digit with early | late
  · rcases Bool.or_eq_true_iff.mp early with digit | within
    · exact Bool.or_eq_true_iff.mpr (Or.inr digit)
    · obtain ⟨from_, upto⟩ := Bool.and_eq_true_iff.mp within
      have last : char.val ≤ 'z'.val := UInt32.le_trans (of_decide_eq_true upto) (by decide)
      have lower : char.isLower = true := Bool.and_eq_true_iff.mpr ⟨from_, decide_eq_true last⟩
      have alpha : char.isAlpha = true := Bool.or_eq_true_iff.mpr (Or.inr lower)
      exact Bool.or_eq_true_iff.mpr (Or.inl alpha)
  · obtain ⟨from_, upto⟩ := Bool.and_eq_true_iff.mp late
    have last : char.val ≤ 'Z'.val := UInt32.le_trans (of_decide_eq_true upto) (by decide)
    have upper : char.isUpper = true := decide_eq_true ⟨of_decide_eq_true from_, last⟩
    have alpha : char.isAlpha = true := Bool.or_eq_true_iff.mpr (Or.inl upper)
    exact Bool.or_eq_true_iff.mpr (Or.inl alpha)

theorem isUriChar_of_isAlphanum {char : Char} (fine : char.isAlphanum = true) :
    isUriChar char = true := by
  simp [isUriChar, isUnreserved, fine]

theorem uriChars_of_alphanum {text : List Char} (fine : ∀ char ∈ text, char.isAlphanum = true) :
    UriChars text := fun char member => isUriChar_of_isAlphanum (fine char member)

theorem Encoded.uriChars {allowed : Char → Bool} {text : List Char} (encoded : Encoded allowed text)
    (fine : ∀ char, allowed char = true → isUriChar char = true) : UriChars text := by
  intro char member
  rcases encoded.mem member with plain | rfl | digit
  · exact fine char plain
  · rfl
  · exact isUriChar_of_isAlphanum (isAlphanum_of_isHexDigit digit)

theorem isUriChar_of_hostChar {char : Char} (fine : (isUnreserved char || isSubDelim char) = true) :
    isUriChar char = true := by
  simp [isUriChar, fine]

theorem isUriChar_of_isPchar {char : Char} (fine : isPchar char = true) : isUriChar char = true := by
  simp only [isPchar, Bool.or_eq_true, beq_iff_eq] at fine
  rcases fine with ((plain | plain) | rfl) | rfl
  · simp [isUriChar, plain]
  · simp [isUriChar, plain]
  · rfl
  · rfl

theorem Segment.uriChars {seg : List Char} (valid : Segment seg) : UriChars seg :=
  Encoded.uriChars valid fun _ => isUriChar_of_isPchar

theorem uriChars_slashed {segs : List (List Char)} (valid : ∀ seg ∈ segs, Segment seg) :
    UriChars (slashed segs) := by
  intro char member
  obtain ⟨seg, among, inside⟩ := List.mem_flatMap.mp member
  rcases List.mem_cons.mp inside with rfl | there
  · rfl
  · exact (valid seg among).uriChars char there

theorem IsH16.uriChars {text : List Char} (valid : IsH16 text) : UriChars text :=
  uriChars_of_alphanum fun char member => isAlphanum_of_isHexDigit (valid.2.2 char member)

theorem IsIPv4.uriChars {text : List Char} (valid : IsIPv4 text) : UriChars text := by
  obtain ⟨parts, _, octets, rfl⟩ := valid
  refine uriChars_intercalate rfl fun part among => uriChars_of_alphanum fun char member => ?_
  obtain ⟨n, _, rfl⟩ := octets part among
  have digit : char.isDigit = true := by
    rw [Nat.toString_eq_repr, Nat.toList_repr] at member
    exact Nat.isDigit_of_mem_toDigits (by omega) (by omega) member
  simp [Char.isAlphanum, digit]

theorem Groups.uriChars {n : Nat} {groups : List (List Char)} (valid : Groups n groups) :
    ∀ group ∈ groups, UriChars group := by
  induction valid with
  | nil => nofun
  | ipv4 address => exact List.forall_mem_singleton.mpr address.uriChars
  | h16 group _ ih => exact List.forall_mem_cons.mpr ⟨group.uriChars, ih⟩

theorem IsIPv6.uriChars {text : List Char} (valid : IsIPv6 text) : UriChars text := by
  rcases valid with ⟨groups, all, rfl⟩ | ⟨n, front, back, before, behind, _, rfl⟩
  · exact uriChars_intercalate rfl all.uriChars
  · refine uriChars_append.mpr ⟨uriChars_append.mpr ⟨?_, ?_⟩, ?_⟩
    · exact uriChars_intercalate rfl fun group among => (before group among).uriChars
    · exact uriChars_cons.mpr ⟨rfl, uriChars_cons.mpr ⟨rfl, uriChars_nil⟩⟩
    · exact uriChars_intercalate rfl behind.uriChars

theorem IsIPvFuture.uriChars {text : List Char} (valid : IsIPvFuture text) : UriChars text := by
  obtain ⟨mark, version, address, letter, _, digits, _, chars, rfl⟩ := valid
  have first : isUriChar mark = true := by
    rcases List.mem_pair.mp letter with rfl | rfl <;> rfl
  refine uriChars_append.mpr ⟨uriChars_cons.mpr ⟨first, ?_⟩, uriChars_cons.mpr ⟨rfl, ?_⟩⟩
  · exact uriChars_of_alphanum fun char member => isAlphanum_of_isHexDigit (digits char member)
  · intro char member
    have fine := chars char member
    rw [Bool.or_eq_true, beq_iff_eq] at fine
    rcases fine with plain | rfl
    · exact isUriChar_of_hostChar plain
    · rfl

theorem IsHost.uriChars {text : List Char} (valid : IsHost text) : UriChars text := by
  cases valid with
  | regName name => exact name.uriChars fun _ => isUriChar_of_hostChar
  | ipLiteral address =>
    refine uriChars_append.mpr ⟨uriChars_cons.mpr ⟨rfl, ?_⟩, uriChars_cons.mpr ⟨rfl, uriChars_nil⟩⟩
    rcases address with ipv6 | future
    · exact ipv6.uriChars
    · exact future.uriChars

theorem IsAuthority.uriChars {text : List Char} (valid : IsAuthority text) : UriChars text := by
  obtain ⟨userInfo, host, port, rfl, named, user, number⟩ := valid
  refine uriChars_append.mpr ⟨uriChars_append.mpr ⟨?_, named.uriChars⟩, ?_⟩
  · rcases user with rfl | ⟨info, rfl, encoded⟩
    · exact uriChars_nil
    · refine uriChars_append.mpr ⟨encoded.uriChars fun char fine => ?_,
        uriChars_cons.mpr ⟨rfl, uriChars_nil⟩⟩
      rw [Bool.or_eq_true, beq_iff_eq] at fine
      rcases fine with plain | rfl
      · exact isUriChar_of_hostChar plain
      · rfl
  · rcases number with rfl | ⟨digits, rfl, fine⟩
    · exact uriChars_nil
    · refine uriChars_cons.mpr ⟨rfl, uriChars_of_alphanum fun char member => ?_⟩
      simp [Char.isAlphanum, fine char member]

theorem IsScheme.uriChars {text : List Char} (valid : IsScheme text) : UriChars text := by
  intro char member
  have fine := valid.chars char member
  rw [Bool.or_eq_true, List.contains_iff_mem] at fine
  rcases fine with plain | mark
  · exact isUriChar_of_isAlphanum plain
  · simp only [List.mem_cons, List.not_mem_nil, or_false] at mark
    rcases mark with rfl | rfl | rfl <;> rfl

theorem IsHierPart.uriChars {relative : Bool} {text : List Char} (valid : IsHierPart relative text) :
    UriChars text := by
  cases valid with
  | authority named path =>
    refine uriChars_append.mpr ⟨?_, uriChars_slashed path⟩
    exact uriChars_cons.mpr ⟨rfl, uriChars_cons.mpr ⟨rfl, named.uriChars⟩⟩
  | absolute _ start path =>
    exact uriChars_append.mpr ⟨uriChars_cons.mpr ⟨rfl, start.uriChars⟩, uriChars_slashed path⟩
  | root => exact uriChars_cons.mpr ⟨rfl, uriChars_nil⟩
  | rootless _ start _ path => exact uriChars_append.mpr ⟨start.uriChars, uriChars_slashed path⟩
  | empty => exact uriChars_nil

theorem Trailing.uriChars {text : List Char} (valid : Trailing text) : UriChars text := by
  refine Encoded.uriChars valid fun char fine => ?_
  simp only [Bool.or_eq_true, beq_iff_eq] at fine
  rcases fine with (plain | rfl) | rfl
  · exact isUriChar_of_isPchar plain
  · rfl
  · rfl

theorem IsSuffix.uriChars {text : List Char} (valid : IsSuffix text) : UriChars text := by
  obtain ⟨query, fragment, rfl, asked, marked⟩ := valid
  refine uriChars_append.mpr ⟨?_, ?_⟩
  · rcases asked with rfl | ⟨inside, rfl, trailing⟩
    · exact uriChars_nil
    · exact uriChars_cons.mpr ⟨rfl, trailing.uriChars⟩
  · rcases marked with rfl | ⟨inside, rfl, trailing⟩
    · exact uriChars_nil
    · exact uriChars_cons.mpr ⟨rfl, trailing.uriChars⟩

/-- **A reference holds nothing but URI characters.** -/
theorem IsUriReference.uriChars {text : List Char} (valid : IsUriReference text) : UriChars text := by
  cases valid with
  | uri scheme hier behind =>
    refine uriChars_append.mpr ⟨uriChars_append.mpr ⟨scheme.uriChars, ?_⟩, behind.uriChars⟩
    exact uriChars_cons.mpr ⟨rfl, hier.uriChars⟩
  | relative hier behind => exact uriChars_append.mpr ⟨hier.uriChars, behind.uriChars⟩

/-! ### References below a base -/

theorem IsBase.uriReference {text : List Char} (base : IsBase text) : IsUriReference text := by
  obtain ⟨scheme, authority, segs, named, host, path, rfl⟩ := base
  have hier : IsHierPart false ('/' :: '/' :: authority ++ slashed segs) := .authority host path
  have whole := IsUriReference.uri named hier (⟨[], [], rfl, Or.inl rfl, Or.inl rfl⟩ : IsSuffix [])
  simpa using whole

theorem IsBase.below {text : List Char} (base : IsBase text) {segs : List (List Char)}
    (valid : ∀ seg ∈ segs, Segment seg) : IsBase (text ++ slashed segs) := by
  obtain ⟨scheme, authority, own, named, host, path, rfl⟩ := base
  refine ⟨scheme, authority, own ++ segs, named, host, List.forall_mem_append.mpr ⟨path, valid⟩, ?_⟩
  simp [slashed]

end OpenSovd.Support.UriSyntax
