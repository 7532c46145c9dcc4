import Mathlib.Data.List.Basic

/-! Percent-encoding of UTF-8 text and the splitting of a path into segments.
Whatever set of ASCII bytes is escaped, as long as the percent sign is in it,
one decoder reads every string back; and a separator in the set never appears
in the encoded text, so a path splits where it was put together. -/
namespace OpenSovd.Support.PercentEncoding

/-- The ASCII bytes that are escaped. Bytes beyond ASCII always are. -/
structure AsciiSet where
  contains : UInt8 → Bool

namespace AsciiSet

/-- `CONTROLS`: the ASCII control characters. -/
def controls : AsciiSet := ⟨fun byte => byte < 0x20 || byte == 0x7f⟩

/-- `NON_ALPHANUMERIC`: everything but the ASCII letters and digits. -/
def nonAlphanumeric : AsciiSet :=
  ⟨fun byte => !((0x30 ≤ byte && byte ≤ 0x39) || (0x41 ≤ byte && byte ≤ 0x5a) ||
    (0x61 ≤ byte && byte ≤ 0x7a))⟩

def add (set : AsciiSet) (char : Char) : AsciiSet :=
  ⟨fun byte => byte == char.toUInt8 || set.contains byte⟩

def shouldPercentEncode (set : AsciiSet) (byte : UInt8) : Bool :=
  0x80 ≤ byte || set.contains byte

end AsciiSet

/-- Upper-case hexadecimal digits. -/
def hexDigit (n : Fin 16) : Char :=
  if n.val < 10 then Char.ofNat (0x30 + n.val) else Char.ofNat (0x37 + n.val)

/-- Either case is read. -/
def hexValue (char : Char) : Option (Fin 16) :=
  (List.finRange 16).find? fun n => hexDigit n == char.toUpper

def high (byte : UInt8) : Fin 16 := ⟨byte.toNat / 16, by have := byte.toNat_lt; omega⟩

def low (byte : UInt8) : Fin 16 := ⟨byte.toNat % 16, by omega⟩

def join (high low : Fin 16) : UInt8 := UInt8.ofNat (high.val * 16 + low.val)

def encodeByte (set : AsciiSet) (byte : UInt8) : List Char :=
  if set.shouldPercentEncode byte then ['%', hexDigit (high byte), hexDigit (low byte)]
  else [Char.ofUInt8 byte]

def bytes (text : String) : List UInt8 := text.toByteArray.data.toList

def utf8PercentEncode (set : AsciiSet) (text : String) : String :=
  String.ofList ((bytes text).flatMap (encodeByte set))

/-- A percent sign that two hexadecimal digits follow stands for their byte;
everything else stands for itself. -/
def decodeBytes : List Char → List UInt8
  | [] => []
  | '%' :: first :: second :: rest =>
    match hexValue first, hexValue second with
    | some high, some low => join high low :: decodeBytes rest
    | _, _ => String.utf8EncodeChar '%' ++ decodeBytes (first :: second :: rest)
  | char :: rest => String.utf8EncodeChar char ++ decodeBytes rest

/-- `percent_decode(..).decode_utf8()`. -/
def percentDecode (text : String) : Option String :=
  String.fromUTF8? ⟨(decodeBytes text.toList).toArray⟩

/-! ### Round trip -/

theorem hexValue_hexDigit : ∀ n, hexValue (hexDigit n) = some n := by decide

theorem join_split (byte : UInt8) : join (high byte) (low byte) = byte := by
  have whole : byte.toNat / 16 * 16 + byte.toNat % 16 = byte.toNat := Nat.div_add_mod' _ _
  simp [join, high, low, whole]

theorem val_ofUInt8 (byte : UInt8) : (Char.ofUInt8 byte).val = byte.toUInt32 := rfl

theorem utf8EncodeChar_ofUInt8 {byte : UInt8} (ascii : byte < 0x80) :
    String.utf8EncodeChar (Char.ofUInt8 byte) = [byte] := by
  have below : byte.toNat < 0x80 := ascii
  have bound : byte.toNat ≤ 0x7f := by omega
  simp [String.utf8EncodeChar, val_ofUInt8, bound]

theorem eq_toUInt8_of_ofUInt8 {byte : UInt8} {char : Char} (same : Char.ofUInt8 byte = char) :
    byte = char.toUInt8 := by
  subst same
  simp [Char.toUInt8, val_ofUInt8]

theorem decodeBytes_plain {char : Char} (plain : char ≠ '%') (rest : List Char) :
    decodeBytes (char :: rest) = String.utf8EncodeChar char ++ decodeBytes rest := by
  rw [decodeBytes]
  rintro first second later rfl
  exact absurd rfl plain

theorem decodeBytes_escape (byte : UInt8) (rest : List Char) :
    decodeBytes ('%' :: hexDigit (high byte) :: hexDigit (low byte) :: rest) =
      byte :: decodeBytes rest := by
  rw [decodeBytes, hexValue_hexDigit, hexValue_hexDigit]
  simp only [join_split]

/-- Decoding reads one encoded byte back. -/
theorem decodeBytes_encodeByte {set : AsciiSet} (percent : set.contains '%'.toUInt8 = true)
    (byte : UInt8) (rest : List Char) :
    decodeBytes (encodeByte set byte ++ rest) = byte :: decodeBytes rest := by
  unfold encodeByte
  split
  · exact decodeBytes_escape byte rest
  · rename_i literal
    simp only [AsciiSet.shouldPercentEncode, Bool.or_eq_true, decide_eq_true_eq, not_or] at literal
    have plain : Char.ofUInt8 byte ≠ '%' := by
      intro same
      rw [eq_toUInt8_of_ofUInt8 same] at literal
      exact literal.2 percent
    have ascii : byte < 0x80 := UInt8.not_le.mp literal.1
    rw [List.singleton_append, decodeBytes_plain plain, utf8EncodeChar_ofUInt8 ascii,
      List.singleton_append]

theorem decodeBytes_encode {set : AsciiSet} (percent : set.contains '%'.toUInt8 = true)
    (raw : List UInt8) : decodeBytes (raw.flatMap (encodeByte set)) = raw := by
  induction raw with
  | nil => rfl
  | cons byte raw ih => rw [List.flatMap_cons, decodeBytes_encodeByte percent, ih]

theorem percentDecode_of_bytes {encoded text : String}
    (same : decodeBytes encoded.toList = bytes text) : percentDecode encoded = some text := by
  have whole : (⟨(bytes text).toArray⟩ : ByteArray) = text.toByteArray := by simp [bytes]
  unfold percentDecode
  rw [same, whole, String.fromUTF8?, dif_pos text.isValidUTF8]
  rfl

/-- **Every string is read back**, whichever bytes are escaped besides the
percent sign. -/
theorem percentDecode_encode {set : AsciiSet} (percent : set.contains '%'.toUInt8 = true)
    (text : String) : percentDecode (utf8PercentEncode set text) = some text := by
  refine percentDecode_of_bytes ?_
  rw [utf8PercentEncode, String.toList_ofList, decodeBytes_encode percent]

/-- Every character stands for at least one byte. -/
theorem decodeBytes_ne_nil (char : Char) (rest : List Char) : decodeBytes (char :: rest) ≠ [] := by
  have some (char : Char) (later : List UInt8) : String.utf8EncodeChar char ++ later ≠ [] := by
    intro none
    have empty := congrArg List.length (List.append_eq_nil_iff.mp none).1
    have positive := char.utf8Size_pos
    simp only [String.length_utf8EncodeChar, List.length_nil] at empty
    omega
  unfold decodeBytes
  split
  · rename_i shape
    cases shape
  · split
    · simp
    · exact some _ _
  · exact some _ _

/-- Only the empty text decodes to the empty text. -/
theorem ne_empty_of_percentDecode {encoded text : String} (nonempty : encoded ≠ "")
    (decoded : percentDecode encoded = some text) : text ≠ "" := by
  rintro rfl
  unfold percentDecode String.fromUTF8? at decoded
  split at decoded
  · have empty := congrArg String.toByteArray (Option.some.inj decoded)
    have none : decodeBytes encoded.toList = [] := by
      simpa [String.fromUTF8] using congrArg (fun raw => raw.data.toList) empty
    cases shape : encoded.toList with
    | nil => exact nonempty (String.toList_inj.mp shape)
    | cons char rest =>
      rw [shape] at none
      exact decodeBytes_ne_nil char rest none
  · cases decoded

/-! ### Characters and their bytes -/

theorem bytes_eq_flatMap (text : String) : bytes text = text.toList.flatMap String.utf8EncodeChar := by
  rw [bytes, ← String.utf8Encode_toList, List.utf8Encode]
  simp

theorem toNat_ofNat_byte (n : Nat) : (UInt8.ofNat n).toNat = n % 256 := UInt8.toNat_ofNat'

/-- Bytes beyond ASCII stand for no ASCII character. -/
theorem eq_ofUInt8_of_mem_utf8EncodeChar {char : Char} {byte : UInt8}
    (member : byte ∈ String.utf8EncodeChar char) (ascii : byte < 0x80) : char = Char.ofUInt8 byte := by
  have below : byte.toNat < 0x80 := ascii
  simp only [String.utf8EncodeChar] at member
  split at member
  · rename_i small
    have same := List.mem_singleton.mp member
    apply Char.toNat_inj.mp
    have value : (Char.ofUInt8 byte).toNat = byte.toNat := by simp [Char.toNat, val_ofUInt8]
    rw [value, same, toNat_ofNat_byte]
    have own : char.val.toNat = char.toNat := rfl
    omega
  · exfalso
    split at member
    · simp only [List.mem_cons, List.not_mem_nil, or_false] at member
      rcases member with rfl | rfl <;> rw [toNat_ofNat_byte] at below <;> omega
    · split at member
      · simp only [List.mem_cons, List.not_mem_nil, or_false] at member
        rcases member with rfl | rfl | rfl <;> rw [toNat_ofNat_byte] at below <;> omega
      · simp only [List.mem_cons, List.not_mem_nil, or_false] at member
        rcases member with rfl | rfl | rfl | rfl <;> rw [toNat_ofNat_byte] at below <;> omega

/-- The ASCII bytes of a text are its ASCII characters. -/
theorem mem_bytes_ascii {text : String} {byte : UInt8} (ascii : byte < 0x80) :
    byte ∈ bytes text ↔ Char.ofUInt8 byte ∈ text.toList := by
  rw [bytes_eq_flatMap, List.mem_flatMap]
  constructor
  · rintro ⟨char, member, inside⟩
    exact eq_ofUInt8_of_mem_utf8EncodeChar inside ascii ▸ member
  · intro member
    exact ⟨_, member, by rw [utf8EncodeChar_ofUInt8 ascii]; exact .head _⟩

/-! ### Separators and segments -/

/-- The character may separate segments: it is escaped, and no escape uses it. -/
structure Separates (set : AsciiSet) (char : Char) : Prop where
  escaped : set.contains char.toUInt8 = true
  percent : char ≠ '%'
  digit : ∀ n, hexDigit n ≠ char

theorem separator_not_mem {set : AsciiSet} {char : Char} (separates : Separates set char)
    (text : String) : char ∉ (utf8PercentEncode set text).toList := by
  rw [utf8PercentEncode, String.toList_ofList]
  intro member
  obtain ⟨byte, _, inside⟩ := List.mem_flatMap.mp member
  unfold encodeByte at inside
  split at inside
  · simp only [List.mem_cons, List.not_mem_nil, or_false] at inside
    rcases inside with same | same | same
    · exact separates.percent same
    · exact separates.digit _ same.symm
    · exact separates.digit _ same.symm
  · rename_i literal
    have same := eq_toUInt8_of_ofUInt8 (List.mem_singleton.mp inside).symm
    simp [AsciiSet.shouldPercentEncode, same, separates.escaped] at literal

theorem utf8PercentEncode_ne_empty {set : AsciiSet} {text : String} (nonempty : text ≠ "") :
    utf8PercentEncode set text ≠ "" := by
  intro empty
  have none : (bytes text).flatMap (encodeByte set) = [] := by
    rw [← String.toList_ofList (l := (bytes text).flatMap _)]
    exact congrArg String.toList empty
  cases raw : bytes text with
  | nil =>
    refine nonempty (String.toByteArray_inj.mp ?_)
    ext1
    exact Array.toList_inj.mp raw
  | cons byte rest =>
    rw [raw, List.flatMap_cons, List.append_eq_nil_iff] at none
    have some := none.1
    unfold encodeByte at some
    split at some <;> cases some

/-- The segments of a path, as a router compares them. -/
def segments (path : String) : List String := (path.toList.splitOn '/').map String.ofList

theorem segments_single {segment : String} (whole : '/' ∉ segment.toList) :
    segments segment = [segment] := by
  simp [segments, List.splitOn_eq_singleton whole]

/-- A slash between two paths splits there, whatever else they contain. -/
theorem segments_join (front back : String) :
    segments (front ++ "/" ++ back) = segments front ++ segments back := by
  have shape : (front ++ "/" ++ back).toList = front.toList ++ '/' :: back.toList := by simp
  rw [segments, shape, List.splitOn_append_cons_self, List.map_append]
  rfl

/-- The path that visits the given segments. -/
def pathOf (segs : List String) : String := segs.foldr (fun segment rest => "/" ++ segment ++ rest) ""

theorem pathOf_cons (segment : String) (rest : List String) :
    pathOf (segment :: rest) = "/" ++ segment ++ pathOf rest := rfl

/-- Segments put behind a path are read back behind its own. -/
theorem segments_append_pathOf {segs : List String}
    (whole : ∀ segment ∈ segs, '/' ∉ segment.toList) (front : String) :
    segments (front ++ pathOf segs) = segments front ++ segs := by
  induction segs generalizing front with
  | nil => simp [pathOf]
  | cons segment rest ih =>
    have plain := whole segment (.head _)
    have shape : front ++ pathOf (segment :: rest) = front ++ "/" ++ segment ++ pathOf rest := by
      simp [pathOf_cons, String.append_assoc]
    rw [shape, ih fun other member => whole other (.tail _ member)]
    rw [segments_join, segments_single plain, List.append_assoc, List.singleton_append]

/-- A path splits into the segments it was put together from. -/
theorem segments_pathOf {segs : List String} (whole : ∀ segment ∈ segs, '/' ∉ segment.toList) :
    segments (pathOf segs) = "" :: segs := by
  have empty : segments "" = [""] := segments_single (by simp)
  have shape := segments_append_pathOf whole ""
  rwa [empty, String.empty_append] at shape

theorem mem_pathOf {segs : List String} {char : Char} (member : char ∈ (pathOf segs).toList) :
    char = '/' ∨ ∃ segment ∈ segs, char ∈ segment.toList := by
  induction segs with
  | nil => simp [pathOf] at member
  | cons segment rest ih =>
    have shape : (pathOf (segment :: rest)).toList =
        '/' :: (segment.toList ++ (pathOf rest).toList) := by
      simp [pathOf]
    rw [shape] at member
    rcases List.mem_cons.mp member with slash | inside
    · exact Or.inl slash
    · rcases List.mem_append.mp inside with here | later
      · exact Or.inr ⟨segment, .head _, here⟩
      · rcases ih later with slash | ⟨other, among, there⟩
        · exact Or.inl slash
        · exact Or.inr ⟨other, .tail _ among, there⟩

/-- What is put together with a separator holds nothing else. -/
theorem mem_intercalate {separator char : Char} {parts : List (List Char)}
    (member : char ∈ [separator].intercalate parts) : char = separator ∨ ∃ part ∈ parts, char ∈ part := by
  induction parts with
  | nil => cases member
  | cons part rest ih =>
    cases rest with
    | nil => exact Or.inr ⟨part, .head _, by simpa using member⟩
    | cons next later =>
      rw [List.intercalate_cons_cons] at member
      simp only [List.mem_append, List.mem_singleton] at member
      rcases member with (here | same) | there
      · exact Or.inr ⟨part, .head _, here⟩
      · exact Or.inl same
      · rcases ih there with same | ⟨other, among, inside⟩
        · exact Or.inl same
        · exact Or.inr ⟨other, .tail _ among, inside⟩

/-- An encoder for one segment: it is read back, and stays one segment. -/
structure SegmentEncoder where
  encode : String → String
  reads : ∀ text, percentDecode (encode text) = some text
  whole : ∀ text, '/' ∉ (encode text).toList
  nonempty : ∀ {text}, text ≠ "" → encode text ≠ ""

/-- Escaping the percent sign and the slash is enough. -/
def SegmentEncoder.ofSet (set : AsciiSet) (percent : set.contains '%'.toUInt8 = true)
    (slash : Separates set '/') : SegmentEncoder where
  encode := utf8PercentEncode set
  reads := percentDecode_encode percent
  whole := separator_not_mem slash
  nonempty := utf8PercentEncode_ne_empty

end OpenSovd.Support.PercentEncoding
