import Worksheet.Proofs.Address.Column
import Worksheet.Proofs.Json.Fields
import Worksheet.Record

/-!
# Records are read back as they were written

A record is written as an object with five members.  Whatever its texts are it is
read back unchanged, and it is written without control characters, so it stays on one
line.
-/

namespace Worksheet.Record

open Json

/-- The members of a record in the order in which they are written. -/
def members (record : Record) : FieldValues :=
  [("row".toList, .natural record.row), ("column".toList, .text record.column.toList),
    ("text".toList, .text record.text.toList), ("value".toList, .text record.value.toList),
    ("color".toList, .natural record.color.toNat)]

theorem write_eq_writeMembers (record : Record) :
    record.write = '\x7b' :: writeMembers true record.members := by
  have row : "\x7b\"row\":".toList = '\x7b' :: '"' :: ("row".toList ++ ['"', ':']) := by decide
  have column : ",\"column\":".toList = ',' :: '"' :: ("column".toList ++ ['"', ':']) := by decide
  have text : ",\"text\":".toList = ',' :: '"' :: ("text".toList ++ ['"', ':']) := by decide
  have value : ",\"value\":".toList = ',' :: '"' :: ("value".toList ++ ['"', ':']) := by decide
  have color : ",\"color\":".toList = ',' :: '"' :: ("color".toList ++ ['"', ':']) := by decide
  unfold write
  rw [row, column, text, value, color]
  simp only [members, writeMembers, writeMember, FieldValue.write, separator, List.append_assoc,
    List.cons_append, List.nil_append, if_true, Bool.false_eq_true, if_false]

theorem plain_of_mem_members {record : Record} :
    ∀ member ∈ record.members, IsPlain member.1 := by
  simp only [members, List.forall_mem_cons, List.not_mem_nil, false_implies, implies_true,
    and_true]
  decide

/-- The members are those of a record whose row number fits in 64 bits. -/
theorem members_fits {record : Record} (small : record.row < gridLimit) :
    Fits jsonFields record.members where
  plain := plain_of_mem_members
  admitted := by
    have color : record.color.toNat < UInt32.size := record.color.toNat_lt
    simp only [members, List.forall_mem_cons, List.not_mem_nil, false_implies, implies_true,
      and_true]
    exact ⟨⟨_, rfl, small, small⟩, ⟨_, rfl, trivial⟩, ⟨_, rfl, trivial⟩, ⟨_, rfl, trivial⟩,
      ⟨_, rfl, color, Nat.lt_trans color (by decide)⟩⟩
  distinct := by
    simp only [members, List.map_cons, List.map_nil]
    decide

theorem ofFields?_members (record : Record) : ofFields? record.members.reverse = some record := by
  have row : FieldValues.natural? record.members.reverse "row".toList = some record.row := rfl
  have column : FieldValues.text? record.members.reverse "column".toList =
      some record.column.toList := rfl
  have text : FieldValues.text? record.members.reverse "text".toList =
      some record.text.toList := rfl
  have value : FieldValues.text? record.members.reverse "value".toList =
      some record.value.toList := rfl
  have color : FieldValues.natural? record.members.reverse "color".toList =
      some record.color.toNat := rfl
  simp only [ofFields?, row, column, text, value, color, Option.getD_some, Option.map_some,
    String.ofList_toList, UInt32.ofNat_toNat]

/-- A record whose row number fits in 64 bits is read back. -/
theorem read_write {record : Record} (small : record.row < gridLimit) :
    read record.write = .ok record := by
  have complete : ∀ field ∈ jsonFields, field.required = true →
      field.name ∈ record.members.map Prod.fst := by
    simp only [jsonFields, members, List.map_cons, List.map_nil, List.forall_mem_cons]
    decide
  rw [read, write_eq_writeMembers, read_writeMembers (members_fits small) complete]
  simp only [ofFields?_members]

/-- A written record has no control characters. -/
theorem not_control_of_mem_write {record : Record} {c : Char} (written : c ∈ record.write) :
    0x20 ≤ c.toNat := by
  rw [write_eq_writeMembers, List.mem_cons] at written
  rcases written with rfl | inside
  · decide
  · exact not_control_of_mem_writeMembers plain_of_mem_members inside

/-- A written record stands between braces. -/
theorem exists_write_eq (record : Record) :
    ∃ inner, record.write = '\x7b' :: (inner ++ ['\x7d']) := by
  obtain ⟨inner, shape⟩ := exists_writeMembers_concat record.members true
  exact ⟨inner, by rw [write_eq_writeMembers, shape]⟩

/-! ## Addresses -/

/-- The record of a cell has the address of that cell. -/
theorem address_ofCell {address : Address} (column : address.column + 1 < gridLimit)
    (cell : Cell) :
    (ofCell address cell).address = .ok address := by
  have letters : Column.ofLetters? (ofCell address cell).column.toList = some address.column := by
    rw [ofCell, String.toList_ofList]
    exact Column.ofLetters?_letters column
  rw [Record.address, address?, letters]
  rfl

end Worksheet.Record
