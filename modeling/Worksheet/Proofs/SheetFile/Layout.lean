import Mathlib.Data.List.TakeWhile
import Worksheet.SheetFile

/-!
# The layout of a sheet file

What a line of a sheet file says does not depend on the blanks around it or on the
lines before it.  A line is passed over, holds the record of a cell, or spoils the
file.  So the records of a file are those of its lines, and the fault of a file is that
of the first line that spoils it, with the number of that line.

The main statement draws three conclusions.  Lines that are passed over and blanks
around lines may be added anywhere.  Two files may be joined by a line feed.  The line
named by a fault is the first one that is not a record of a cell.
-/

namespace Worksheet

namespace Text

/-- Blanks around a text make no difference once it is trimmed. -/
theorem trim_surround {before after : List Char} (text : List Char)
    (leading : ∀ c ∈ before, isBlank c = true) (trailing : ∀ c ∈ after, isBlank c = true) :
    trim (before ++ text ++ after) = trim text := by
  unfold trim trimStart
  rw [List.append_assoc, List.dropWhile_append_of_pos leading, List.dropWhile_append]
  split
  · next blank =>
      rw [List.isEmpty_iff.1 blank, List.dropWhile_eq_nil_iff.2 trailing]
  · have reversed : ∀ c ∈ after.reverse, isBlank c = true := by
      intro c member
      exact trailing c (List.mem_reverse.1 member)
    rw [List.reverse_append, List.dropWhile_append_of_pos reversed]

/-- A trimmed text starts with the first character that is not blank. -/
theorem head?_trim (text : List Char) :
    (trim text).head? = text.find? fun c => !isBlank c := by
  induction text with
  | nil => rfl
  | cons c rest ih =>
      cases blank : isBlank c with
      | true =>
          rw [List.find?_cons_of_neg (by simp [blank]), ← ih, trim, trimStart,
            List.dropWhile_cons_of_pos blank]
          rfl
      | false =>
          rw [List.find?_cons_of_pos (by simp [blank]), trim, trimStart_of_not_isBlank blank,
            List.reverse_cons, List.dropWhile_append, List.dropWhile_cons_of_neg (by simp [blank])]
          split <;> simp

/-- There is one line more than there are line feeds. -/
theorem length_lines (text : List Char) : (lines text).length = text.count '\n' + 1 := by
  have within : ∀ current, (linesFrom [] current text).length = text.count '\n' + 1 := by
    induction text with
    | nil => simp [linesFrom]
    | cons c rest ih =>
        intro current
        by_cases feed : c = '\n'
        · rw [linesFrom, if_pos feed, linesFrom_eq_reverse_append, List.length_append, ih]
          simp [feed, Nat.add_comm]
        · rw [linesFrom, if_neg feed, ih, List.count_cons_of_ne feed]
  exact within []

end Text

open Text

/-- The same fault in a text that starts `extra` lines further down. -/
def SheetError.moveDown (extra : Nat) : SheetError → SheetError
  | .recordAddress line fault => .recordAddress (line + extra) fault
  | .recordFormat line fault => .recordFormat (line + extra) fault
  | fault => fault

namespace SheetFile

/-! ## What a line says -/

/-- A line that is passed over: its first character that is not blank, if it has one,
is `#`. -/
def Idle (line : List Char) : Prop :=
  ∀ c ∈ line.find? fun c => !isBlank c, c = '#'

instance (line : List Char) : Decidable (Idle line) :=
  decidable_of_iff ((line.find? fun c => !isBlank c).all (· == '#') = true)
    (by cases found : line.find? fun c => !isBlank c <;> simp [Idle, found])

/-- The line is the record of a cell. -/
structure Holds (line : List Char) (record : Record) : Prop where
  busy : ¬ Idle line
  decoded : Record.read (trim line) = .ok record
  named : ∃ address, record.address = .ok address

/-- The line with a number spoils the file with a fault: it is not a record, or a record
that names no cell. -/
inductive Spoils (number : Nat) (line : List Char) : SheetError → Prop
  | format {fault : Json.Fault} (busy : ¬ Idle line)
      (refused : Record.read (trim line) = .error fault) :
      Spoils number line (.recordFormat number fault)
  | address {record : Record} {fault : FormulaError} (busy : ¬ Idle line)
      (decoded : Record.read (trim line) = .ok record)
      (nameless : record.address = .error fault) : Spoils number line (.recordAddress number fault)

theorem idle_iff {line : List Char} : Idle line ↔ ∀ c ∈ (trim line).head?, c = '#' := by
  rw [Idle, head?_trim]

theorem idle_congr {line other : List Char} (same : trim line = trim other) :
    Idle line ↔ Idle other := by
  rw [idle_iff, idle_iff, same]

theorem holds_congr {line other : List Char} (same : trim line = trim other) {record : Record} :
    Holds line record ↔ Holds other record := by
  constructor
  · rintro ⟨busy, decoded, named⟩
    exact ⟨mt (idle_congr same).2 busy, same ▸ decoded, named⟩
  · rintro ⟨busy, decoded, named⟩
    exact ⟨mt (idle_congr same).1 busy, same ▸ decoded, named⟩

theorem readLine_of_idle {line : List Char} (idle : Idle line) (number : Nat) :
    readLine number line = .ok none := by
  rw [idle_iff] at idle
  unfold readLine
  split
  · rfl
  · next c rest trimmed =>
      rw [trimmed] at idle
      rw [if_pos (idle c rfl)]

/-- A line that is not passed over has a character to be read as JSON. -/
theorem exists_trim_cons {line : List Char} (busy : ¬ Idle line) :
    ∃ c rest, trim line = c :: rest ∧ c ≠ '#' := by
  rw [idle_iff] at busy
  cases trimmed : trim line with
  | nil =>
      rw [trimmed] at busy
      exact absurd nofun busy
  | cons c rest =>
      refine ⟨c, rest, rfl, ?_⟩
      rintro rfl
      rw [trimmed] at busy
      apply busy
      rintro c ⟨⟩
      rfl

theorem readLine_of_holds {line : List Char} {record : Record} (holds : Holds line record)
    (number : Nat) : readLine number line = .ok (some record) := by
  obtain ⟨busy, decoded, address, named⟩ := holds
  obtain ⟨c, rest, trimmed, plain⟩ := exists_trim_cons busy
  rw [trimmed] at decoded
  simp only [readLine, trimmed, if_neg plain, decoded, named]

theorem readLine_of_spoils {line : List Char} {number : Nat} {fault : SheetError}
    (spoils : Spoils number line fault) : readLine number line = .error fault := by
  cases spoils with
  | format busy refused =>
      obtain ⟨c, rest, trimmed, plain⟩ := exists_trim_cons busy
      rw [trimmed] at refused
      simp only [readLine, trimmed, if_neg plain, refused]
  | address busy decoded nameless =>
      obtain ⟨c, rest, trimmed, plain⟩ := exists_trim_cons busy
      rw [trimmed] at decoded
      simp only [readLine, trimmed, if_neg plain, decoded, nameless]

theorem Spoils.moveDown {line : List Char} {number : Nat} {fault : SheetError}
    (spoils : Spoils number line fault) (extra : Nat) :
    Spoils (number + extra) line (fault.moveDown extra) := by
  cases spoils with
  | format busy refused => exact .format busy refused
  | address busy decoded nameless => exact .address busy decoded nameless

/-! ## What lines say -/

/-- Each line is passed over or holds the next record. -/
inductive Yields : List (List Char) → List Record → Prop
  | nil : Yields [] []
  | idle {line : List Char} {lines : List (List Char)} {records : List Record}
      (idle : Idle line) (behind : Yields lines records) : Yields (line :: lines) records
  | record {line : List Char} {record : Record} {lines : List (List Char)}
      {records : List Record} (holds : Holds line record) (behind : Yields lines records) :
      Yields (line :: lines) (record :: records)

/-- The fault is that of the first line that spoils the file, where `number` is the number
of the first line. -/
def FirstSpoiled (number : Nat) (lines : List (List Char)) (fault : SheetError) : Prop :=
  ∃ before line after, lines = before ++ line :: after ∧
    (∃ records, Yields before records) ∧ Spoils (number + before.length) line fault

theorem Yields.append {first second : List (List Char)} {records others : List Record}
    (yields : Yields first records) (behind : Yields second others) :
    Yields (first ++ second) (records ++ others) := by
  induction yields with
  | nil => exact behind
  | idle idle _ ih => exact .idle idle ih
  | record holds _ ih => exact .record holds ih

/-- Lines that yield records are read, and reading goes on behind them. -/
theorem readLines_append_of_yields {first : List (List Char)} {records : List Record}
    (yields : Yields first records) (number : Nat) (found : List Record)
    (second : List (List Char)) :
    readLines number found (first ++ second) =
      readLines (number + first.length) (records.reverse ++ found) second := by
  induction yields generalizing number found with
  | nil => rfl
  | idle idle _ ih =>
      rw [List.cons_append, readLines, readLine_of_idle idle]
      dsimp only
      rw [ih, List.length_cons, Nat.add_right_comm, Nat.add_assoc]
  | @record line record lines records holds _ ih =>
      rw [List.cons_append, readLines, readLine_of_holds holds]
      dsimp only
      rw [ih, List.length_cons, Nat.add_right_comm, Nat.add_assoc, List.reverse_cons,
        List.append_assoc]
      rfl

theorem readLines_of_yields {lines : List (List Char)} {records : List Record}
    (yields : Yields lines records) (number : Nat) :
    readLines number [] lines = .ok records := by
  have whole := readLines_append_of_yields yields number [] []
  rw [List.append_nil, List.append_nil] at whole
  rw [whole, readLines, List.reverse_reverse]

theorem readLines_of_firstSpoiled {lines : List (List Char)} {number : Nat} {fault : SheetError}
    (spoiled : FirstSpoiled number lines fault) : readLines number [] lines = .error fault := by
  obtain ⟨before, line, after, rfl, ⟨records, yields⟩, spoils⟩ := spoiled
  rw [readLines_append_of_yields yields, readLines, readLine_of_spoils spoils]

/-- A line that does not spoil the file is passed over or holds a record. -/
theorem yields_or_spoils (number : Nat) (line : List Char) :
    (∃ records, Yields [line] records) ∨ ∃ fault, Spoils number line fault := by
  by_cases idle : Idle line
  · exact .inl ⟨[], .idle idle .nil⟩
  · cases decoded : Record.read (trim line) with
    | error fault => exact .inr ⟨_, .format idle decoded⟩
    | ok record =>
        cases named : record.address with
        | error fault => exact .inr ⟨_, .address idle decoded named⟩
        | ok address => exact .inl ⟨[record], .record ⟨idle, decoded, address, named⟩ .nil⟩

theorem yields_or_firstSpoiled (number : Nat) (lines : List (List Char)) :
    (∃ records, Yields lines records) ∨ ∃ fault, FirstSpoiled number lines fault := by
  induction lines generalizing number with
  | nil => exact .inl ⟨[], .nil⟩
  | cons line lines ih =>
      rcases yields_or_spoils number line with ⟨own, fine⟩ | ⟨fault, spoils⟩
      · rcases ih (number + 1) with ⟨records, yields⟩ |
          ⟨fault, before, spoiled, after, rfl, ⟨records, yields⟩, spoils⟩
        · exact .inl ⟨own ++ records, fine.append yields⟩
        · rw [Nat.add_right_comm, Nat.add_assoc] at spoils
          exact .inr ⟨fault, line :: before, spoiled, after, rfl,
            ⟨own ++ records, fine.append yields⟩, spoils⟩
      · exact .inr ⟨fault, [], line, lines, rfl, ⟨[], .nil⟩, spoils⟩

/-- Lines yield records if each of them is passed over or holds a record. -/
theorem exists_yields_iff {lines : List (List Char)} :
    (∃ records, Yields lines records) ↔
      ∀ line ∈ lines, Idle line ∨ ∃ record, Holds line record := by
  constructor
  · rintro ⟨records, yields⟩
    induction yields with
    | nil => exact nofun
    | idle idle _ ih => exact List.forall_mem_cons.2 ⟨.inl idle, ih⟩
    | record holds _ ih => exact List.forall_mem_cons.2 ⟨.inr ⟨_, holds⟩, ih⟩
  · intro fine
    induction lines with
    | nil => exact ⟨[], .nil⟩
    | cons line lines ih =>
        obtain ⟨first, others⟩ := List.forall_mem_cons.1 fine
        obtain ⟨records, yields⟩ := ih others
        rcases first with idle | ⟨record, holds⟩
        · exact ⟨records, .idle idle yields⟩
        · exact ⟨record :: records, .record holds yields⟩

/-- A file is read if none of its lines spoils it. -/
theorem read_eq_ok_iff {content : String} {records : List Record} :
    read content = .ok records ↔ Yields (lines content.toList) records := by
  constructor
  · intro succeeded
    rcases yields_or_firstSpoiled 1 (lines content.toList) with ⟨others, yields⟩ | ⟨fault, spoiled⟩
    · rw [read, readLines_of_yields yields] at succeeded
      cases succeeded
      exact yields
    · rw [read, readLines_of_firstSpoiled spoiled] at succeeded
      cases succeeded
  · exact fun yields => readLines_of_yields yields 1

/-- A file is refused because of the first line that spoils it. -/
theorem read_eq_error_iff {content : String} {fault : SheetError} :
    read content = .error fault ↔ FirstSpoiled 1 (lines content.toList) fault := by
  constructor
  · intro failed
    rcases yields_or_firstSpoiled 1 (lines content.toList) with ⟨others, yields⟩ | ⟨other, spoiled⟩
    · rw [read, readLines_of_yields yields] at failed
      cases failed
    · rw [read, readLines_of_firstSpoiled spoiled] at failed
      cases failed
      exact spoiled
  · exact readLines_of_firstSpoiled

/-! ## Lines and blanks that are added -/

/-- Lines that are passed over have been added to some lines, and blanks around the
lines.  A carriage return before a line feed is a blank at the end of its line. -/
inductive Padded : List (List Char) → List (List Char) → Prop
  | nil : Padded [] []
  | line {lines padded : List (List Char)} (before line after : List Char)
      (leading : ∀ c ∈ before, isBlank c = true) (trailing : ∀ c ∈ after, isBlank c = true)
      (behind : Padded lines padded) : Padded (line :: lines) ((before ++ line ++ after) :: padded)
  | added {lines padded : List (List Char)} (line : List Char) (idle : Idle line)
      (behind : Padded lines padded) : Padded lines (line :: padded)

theorem yields_cons_iff {line : List Char} {lines : List (List Char)} {records : List Record} :
    Yields (line :: lines) records ↔
      (Idle line ∧ Yields lines records) ∨
        ∃ record others, records = record :: others ∧ Holds line record ∧ Yields lines others := by
  constructor
  · intro yields
    cases yields with
    | idle idle behind => exact .inl ⟨idle, behind⟩
    | record holds behind => exact .inr ⟨_, _, rfl, holds, behind⟩
  · rintro (⟨idle, behind⟩ | ⟨record, others, rfl, holds, behind⟩)
    · exact .idle idle behind
    · exact .record holds behind

theorem Padded.yields_iff {lines padded : List (List Char)} (added : Padded lines padded)
    {records : List Record} : Yields lines records ↔ Yields padded records := by
  induction added generalizing records with
  | nil => exact Iff.rfl
  | line before line after leading trailing _ ih =>
      have same := trim_surround line leading trailing
      simp only [yields_cons_iff, idle_congr same, holds_congr same, ih]
  | added line idle _ ih =>
      rw [ih, yields_cons_iff]
      constructor
      · exact fun yields => .inl ⟨idle, yields⟩
      · rintro (⟨-, yields⟩ | ⟨record, others, -, holds, -⟩)
        · exact yields
        · exact absurd idle holds.busy

/-! ## Files that are joined -/

theorem lines_join (first second : String) :
    lines (first ++ "\n" ++ second).toList = lines first.toList ++ lines second.toList := by
  rw [String.toList_append, String.toList_append, List.append_assoc]
  exact lines_append_newline first.toList second.toList

theorem FirstSpoiled.append {number : Nat} {first : List (List Char)} {fault : SheetError}
    (spoiled : FirstSpoiled number first fault) (second : List (List Char)) :
    FirstSpoiled number (first ++ second) fault := by
  obtain ⟨before, line, after, rfl, yields, spoils⟩ := spoiled
  exact ⟨before, line, after ++ second, by simp, yields, spoils⟩

theorem FirstSpoiled.behind {number : Nat} {first second : List (List Char)}
    {records : List Record} {fault : SheetError} (spoiled : FirstSpoiled number second fault)
    (yields : Yields first records) :
    FirstSpoiled number (first ++ second) (fault.moveDown first.length) := by
  obtain ⟨before, line, after, rfl, ⟨others, behind⟩, spoils⟩ := spoiled
  refine ⟨first ++ before, line, after, by simp, ⟨_, yields.append behind⟩, ?_⟩
  rw [List.length_append, ← Nat.add_assoc, Nat.add_right_comm]
  exact spoils.moveDown first.length

/-- The records of joined files follow each other, and the fault of the second one is
moved down by the lines of the first. -/
theorem read_join (first second : String) :
    read (first ++ "\n" ++ second) =
      match read first with
      | .error fault => .error fault
      | .ok records =>
          match read second with
          | .error fault => .error (fault.moveDown (first.toList.count '\n' + 1))
          | .ok others => .ok (records ++ others) := by
  cases firstRead : read first with
  | error fault =>
      rw [read_eq_error_iff] at firstRead
      dsimp only
      rw [read_eq_error_iff, lines_join]
      exact firstRead.append _
  | ok records =>
      rw [read_eq_ok_iff] at firstRead
      cases secondRead : read second with
      | error fault =>
          rw [read_eq_error_iff] at secondRead
          dsimp only
          rw [read_eq_error_iff, lines_join, ← length_lines]
          exact secondRead.behind firstRead
      | ok others =>
          rw [read_eq_ok_iff] at secondRead
          dsimp only
          rw [read_eq_ok_iff, lines_join]
          exact firstRead.append secondRead

/-- The layout of a file does not matter to its records.  Lines that are passed over and
blanks around lines may be added, files may be joined, and a fault names the first line
that is not the record of a cell. -/
theorem read_padded_joined_located :
    (∀ content padded : String, Padded (lines content.toList) (lines padded.toList) →
      ∀ records, read padded = .ok records ↔ read content = .ok records) ∧
    (∀ first second : String, read (first ++ "\n" ++ second) =
      match read first with
      | .error fault => .error fault
      | .ok records =>
          match read second with
          | .error fault => .error (fault.moveDown (first.toList.count '\n' + 1))
          | .ok others => .ok (records ++ others)) ∧
    ∀ content fault, read content = .error fault ↔
      ∃ before line after, lines content.toList = before ++ line :: after ∧
        (∀ other ∈ before, Idle other ∨ ∃ record, Holds other record) ∧
        Spoils (before.length + 1) line fault := by
  refine ⟨?_, read_join, ?_⟩
  · intro content padded added records
    rw [read_eq_ok_iff, read_eq_ok_iff, added.yields_iff]
  · intro content fault
    simp only [read_eq_error_iff, FirstSpoiled, exists_yields_iff, Nat.add_comm 1]

/-- A comment before a record, blanks around it and a carriage return behind it. -/
theorem read_of_commented_record :
    read "# first\n\t\x7b\"row\":1,\"column\":\"A\"\x7d \r\n" =
      .ok [⟨1, "A", "", "", defaultColor⟩] := by
  have plain : read "\x7b\"row\":1,\"column\":\"A\"\x7d" =
      .ok [⟨1, "A", "", "", defaultColor⟩] := by
    decide +kernel
  have padded : Padded (lines "\x7b\"row\":1,\"column\":\"A\"\x7d".toList)
      (lines "# first\n\t\x7b\"row\":1,\"column\":\"A\"\x7d \r\n".toList) :=
    .added "# first".toList (by decide)
      (.line ['\t'] _ [' ', '\r'] (List.all_eq_true.1 (by decide)) (List.all_eq_true.1 (by decide))
        (.added [] (by decide) .nil))
  exact (read_padded_joined_located.1 _ _ padded _).2 plain

end SheetFile

end Worksheet
