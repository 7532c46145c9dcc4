import Mathlib.Data.List.Basic
import OpenSovd.Support.PercentEncoding

/-! Query strings: pairs joined by ampersands, decoded by splitting on `&` and
on the first `=`. A component that contains no separator and whose escapes
decode to a text is read back as that text, so a query splits into the pairs it
was put together from, in their order and with every repeat of a key. -/
namespace OpenSovd.Support.FormEncoding
open PercentEncoding

/-- `{k}={v}`, joined by `&`. -/
def joinPairs (pairs : List (String × String)) : String :=
  String.ofList (List.intercalate ['&'] (pairs.map fun (k, v) => k.toList ++ '=' :: v.toList))

/-- A plus sign is a space, then the escapes are decoded; `lossy` is what
becomes of bytes that are no UTF-8. -/
def decodeComponent (lossy : List UInt8 → String) (raw : List Char) : String :=
  let decoded := decodeBytes (raw.map fun char => if char = '+' then ' ' else char)
  (String.fromUTF8? ⟨decoded.toArray⟩).getD (lossy decoded)

/-- The parts around the first `=`; a part without one is a key on its own. -/
def splitPair (part : List Char) : List Char × List Char :=
  (part.takeWhile (· ≠ '='), (part.dropWhile (· ≠ '=')).tail)

/-- The pairs of a query; empty parts are skipped. -/
def parsePairs (lossy : List UInt8 → String) (query : String) : List (String × String) :=
  let parts := (query.toList.splitOn '&').filter (· ≠ [])
  parts.map fun part =>
    (decodeComponent lossy (splitPair part).1, decodeComponent lossy (splitPair part).2)

/-- The values of a key, in order. -/
def valuesOf (key : String) (pairs : List (String × String)) : List String :=
  pairs.filterMap fun (k, v) => if k = key then some v else none

variable {lossy : List UInt8 → String}

/-! ### Reading back -/

/-- What is written for a text: it decodes to the text and stays one component. -/
structure Writes (raw text : String) : Prop where
  ampersand : '&' ∉ raw.toList
  equals : '=' ∉ raw.toList
  plus : '+' ∉ raw.toList
  decodes : decodeBytes raw.toList = bytes text

/-- Both components are written so. -/
def WritesPair (raw text : String × String) : Prop := Writes raw.1 text.1 ∧ Writes raw.2 text.2

theorem decodeComponent_writes {raw text : String} (writes : Writes raw text) :
    decodeComponent lossy raw.toList = text := by
  have plain : (raw.toList.map fun char => if char = '+' then ' ' else char) = raw.toList := by
    refine (List.map_congr_left fun char member => ?_).trans (List.map_id _)
    have other : char ≠ '+' := fun same => writes.plus (same ▸ member)
    simp [other]
  have read := percentDecode_of_bytes writes.decodes
  unfold percentDecode at read
  simp only [decodeComponent, plain, read, Option.getD_some]

theorem splitPair_join {key value : List Char} (whole : '=' ∉ key) :
    splitPair (key ++ '=' :: value) = (key, value) := by
  have inside : ∀ char ∈ key, (decide (char ≠ '=')) = true := by
    intro char member
    exact decide_eq_true fun same => whole (same ▸ member)
  unfold splitPair
  rw [List.takeWhile_append_of_pos inside, List.dropWhile_append_of_pos inside]
  simp

/-- **Every query is read back** as the pairs it was written from. -/
theorem parsePairs_joinPairs {raws texts : List (String × String)}
    (writes : List.Forall₂ WritesPair raws texts) :
    parsePairs lossy (joinPairs raws) = texts := by
  cases shape : raws with
  | nil =>
    subst shape
    cases writes
    rfl
  | cons first rest =>
    rw [← shape]
    have some : (raws.map fun (k, v) => k.toList ++ '=' :: v.toList) ≠ [] := by simp [shape]
    have whole : ∀ part ∈ raws.map fun (k, v) => k.toList ++ '=' :: v.toList, '&' ∉ part := by
      clear shape some
      induction writes with
      | nil => simp
      | @cons raw text raws texts pair _ ih =>
        simp only [List.map_cons, List.mem_cons, forall_eq_or_imp]
        refine ⟨?_, ih⟩
        simp [pair.1.ampersand, pair.2.ampersand]
    unfold parsePairs joinPairs
    rw [String.toList_ofList, List.splitOn_intercalate '&' whole some]
    clear shape some whole
    induction writes with
    | nil => rfl
    | @cons raw text raws texts pair _ ih =>
      rw [List.map_cons, List.filter_cons_of_pos (by simp), List.map_cons, ih,
        splitPair_join pair.1.equals, decodeComponent_writes pair.1, decodeComponent_writes pair.2]

/-! ### What to write -/

/-- An escape set for components: every separator and the percent sign are in it. -/
structure ComponentSet (set : AsciiSet) : Prop where
  percent : set.contains '%'.toUInt8 = true
  ampersand : Separates set '&'
  equals : Separates set '='
  plus : Separates set '+'

theorem writes_encode {set : AsciiSet} (escapes : ComponentSet set) (text : String) :
    Writes (utf8PercentEncode set text) text where
  ampersand := separator_not_mem escapes.ampersand text
  equals := separator_not_mem escapes.equals text
  plus := separator_not_mem escapes.plus text
  decodes := by rw [utf8PercentEncode, String.toList_ofList, decodeBytes_encode escapes.percent]

theorem decodeBytes_of_plain {raw : List Char} (plain : ∀ char ∈ raw, char ≠ '%') :
    decodeBytes raw = raw.flatMap String.utf8EncodeChar := by
  induction raw with
  | nil => rfl
  | cons char rest ih =>
    rw [decodeBytes_plain (plain char (.head _)), ih fun other member => plain other (.tail _ member),
      List.flatMap_cons]

/-- A text without separators and escapes may stand as it is. -/
theorem writes_plain {text : String} (plain : ∀ char ∈ text.toList, char ∉ ['&', '=', '+', '%']) :
    Writes text text where
  ampersand member := plain _ member (by simp)
  equals member := plain _ member (by simp)
  plus member := plain _ member (by simp)
  decodes := by
    rw [bytes_eq_flatMap]
    exact decodeBytes_of_plain fun char member same => plain char member (by simp [same])

theorem valuesOf_append (key : String) (front back : List (String × String)) :
    valuesOf key (front ++ back) = valuesOf key front ++ valuesOf key back := by
  simp [valuesOf]

/-- The values listed under one key are all of them or none. -/
theorem valuesOf_listed {α : Type} (key own : String) (text : α → String) (items : List α) :
    valuesOf key (items.map fun item => (own, text item)) =
      if own = key then items.map text else [] := by
  unfold valuesOf
  by_cases same : own = key <;> simp [same, List.filterMap_map]

end OpenSovd.Support.FormEncoding
