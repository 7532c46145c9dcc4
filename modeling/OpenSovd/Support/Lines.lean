import Mathlib.Data.List.Basic
import Mathlib.Data.String.Basic

/-! Text written and read line by line. Lines that are written come back when the
text is read exactly if none of them has a line feed of its own. -/
namespace OpenSovd.Support.Lines

/-- Append a line. -/
def writeln (text line : String) : String := text ++ line ++ "\n"

/-- Write lines after a text. -/
def writeLines (text : String) (lines : List String) : String := lines.foldl writeln text

/-- The lines of a text; after a last line feed there is no other line. -/
def readLines (text : String) : List String :=
  let pieces := text.toList.splitOn '\n'
  (if pieces.getLast? = some [] then pieces.dropLast else pieces).map String.ofList

theorem writeLines_append (text : String) (front back : List String) :
    writeLines text (front ++ back) = writeLines (writeLines text front) back := List.foldl_append

theorem writeLines_eq (text : String) (lines : List String) :
    writeLines text lines = text ++ writeLines "" lines := by
  induction lines generalizing text with
  | nil => simp [writeLines]
  | cons line rest ih =>
    have first (before : String) : writeLines before (line :: rest) =
        writeLines (writeln before line) rest := rfl
    rw [first, first, ih (writeln text line), ih (writeln "" line)]
    simp [writeln, String.append_assoc]

theorem splitOn_written {lines : List String} (whole : ∀ line ∈ lines, '\n' ∉ line.toList) :
    (writeLines "" lines).toList.splitOn '\n' = lines.map String.toList ++ [[]] := by
  induction lines with
  | nil => rfl
  | cons line rest ih =>
    have tail := ih fun line member => whole line (List.mem_cons_of_mem _ member)
    have first : (writeLines "" (line :: rest)).toList =
        line.toList ++ '\n' :: (writeLines "" rest).toList := by
      have split := writeLines_eq (writeln "" line) rest
      change (writeLines (writeln "" line) rest).toList = _
      rw [split]
      simp [writeln]
    rw [first, List.splitOn_append_cons_self_of_not_mem (whole line List.mem_cons_self), tail]
    rfl

/-- A line that was read has no line feed. -/
theorem not_mem_of_mem_splitOn {sep : Char} {text piece : List Char}
    (member : piece ∈ text.splitOn sep) : sep ∉ piece := by
  induction text generalizing piece with
  | nil =>
    cases List.mem_singleton.mp member
    exact List.not_mem_nil
  | cons char rest ih =>
    rw [List.splitOn_cons_eq_if_modifyHead] at member
    obtain ⟨head, others, shape⟩ := List.exists_cons_of_ne_nil (List.splitOn_ne_nil sep rest)
    have clean : ∀ piece ∈ head :: others, sep ∉ piece := fun piece inside => ih (shape ▸ inside)
    split at member
    · rcases List.mem_cons.mp member with rfl | inside
      · exact List.not_mem_nil
      · exact ih inside
    · rename_i other
      rw [shape, List.modifyHead_cons] at member
      rcases List.mem_cons.mp member with rfl | inside
      · have same : sep ≠ char := by
          rintro rfl
          simp at other
        exact List.not_mem_cons_of_ne_of_not_mem same (clean head List.mem_cons_self)
      · exact clean piece (List.mem_cons_of_mem _ inside)

/-- **What was written is read** exactly if no line has a line feed. -/
theorem readLines_written_iff (lines : List String) :
    readLines (writeLines "" lines) = lines ↔ ∀ line ∈ lines, '\n' ∉ line.toList := by
  constructor
  · intro same line member
    rw [← same] at member
    obtain ⟨piece, inside, rfl⟩ := List.mem_map.mp member
    have split : piece ∈ (writeLines "" lines).toList.splitOn '\n' := by
      split at inside
      · exact (List.dropLast_sublist _).mem inside
      · exact inside
    rw [String.toList_ofList]
    exact not_mem_of_mem_splitOn split
  · intro whole
    rw [readLines, splitOn_written whole]
    simp [List.map_map, Function.comp_def]

end OpenSovd.Support.Lines
