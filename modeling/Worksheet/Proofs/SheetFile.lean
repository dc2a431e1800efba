import Worksheet.Proofs.Record
import Worksheet.Proofs.SheetFile.Layout

/-!
# Sheet files are read back as they were written

Every record stands on a line of its own, because it has no control characters.  The
heading and the empty text after the last line feed are passed over, so exactly the
records are read back.
-/

namespace Worksheet

namespace Text

/-- A text without line feeds is a single line. -/
theorem lines_of_not_mem {line : List Char} (single : '\n' ∉ line) : lines line = [line] := by
  have within : ∀ current, linesFrom [] current line = [current.reverse ++ line] := by
    intro current
    induction line generalizing current with
    | nil => simp [linesFrom]
    | cons c line ih =>
        rw [List.mem_cons, not_or] at single
        rw [linesFrom, if_neg (Ne.symm single.1), ih single.2]
        simp
  exact within []

/-- The lines of a text in which every line is ended by a line feed. -/
theorem lines_flatMap {all : List (List Char)} (single : ∀ line ∈ all, '\n' ∉ line) :
    lines (all.flatMap fun line => line ++ ['\n']) = all ++ [[]] := by
  induction all with
  | nil => rfl
  | cons line all ih =>
      obtain ⟨first, others⟩ := List.forall_mem_cons.1 single
      rw [List.flatMap_cons, List.append_assoc, List.singleton_append, lines_append_newline,
        lines_of_not_mem first, ih others]
      rfl

/-- A text that neither starts nor ends with a blank is left as it is. -/
theorem trim_eq_self {first last : Char} {inner : List Char} (start : isBlank first = false)
    (stop : isBlank last = false) :
    trim (first :: (inner ++ [last])) = first :: (inner ++ [last]) := by
  have ending : (first :: (inner ++ [last])).reverse = last :: (first :: inner).reverse := by simp
  rw [trim, trimStart_of_not_isBlank start, ending, List.dropWhile_cons_of_neg (by simp [stop]),
    ← ending, List.reverse_reverse]

end Text

namespace SheetFile

/-- Records that can be read back from a file. -/
def Readable (record : Record) : Prop :=
  record.row < gridLimit ∧ ∃ address, record.address = .ok address

/-- A written record is read from its line. -/
theorem holds_write {record : Record} (readable : Readable record) :
    Holds record.write record := by
  obtain ⟨small, named⟩ := readable
  obtain ⟨inner, shape⟩ := record.exists_write_eq
  have back := Record.read_write small
  rw [shape] at back ⊢
  have trimmed : Text.trim ('\x7b' :: (inner ++ ['\x7d'])) = '\x7b' :: (inner ++ ['\x7d']) :=
    Text.trim_eq_self (by decide) (by decide)
  refine ⟨?_, trimmed.symm ▸ back, named⟩
  intro idle
  rw [idle_iff, trimmed] at idle
  exact absurd (idle '\x7b' rfl) (by decide)

/-- The written records are those of their lines. -/
theorem yields_write {records : List Record} (readable : ∀ record ∈ records, Readable record) :
    Yields (records.map Record.write ++ [[]]) records := by
  induction records with
  | nil => exact .idle (by decide) .nil
  | cons record records ih =>
      obtain ⟨first, others⟩ := List.forall_mem_cons.1 readable
      exact .record (holds_write first) (ih others)

/-- The records of a written file are read back. -/
theorem read_write {records : List Record} (readable : ∀ record ∈ records, Readable record) :
    read (write records) = .ok records := by
  have single : ∀ line ∈ heading.toList :: records.map Record.write, '\n' ∉ line := by
    rw [List.forall_mem_cons]
    refine ⟨by decide, ?_⟩
    intro line member feed
    obtain ⟨record, _, rfl⟩ := List.mem_map.1 member
    exact absurd (Record.not_control_of_mem_write feed) (by decide)
  have passedOver : Idle heading.toList := by
    decide
  rw [read_eq_ok_iff, write, String.toList_ofList, Text.lines_flatMap single, List.cons_append]
  exact .idle passedOver (yields_write readable)

end SheetFile

end Worksheet
