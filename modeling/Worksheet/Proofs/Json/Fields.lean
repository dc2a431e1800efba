import Worksheet.Json.Fields
import Worksheet.Proofs.Json.Number
import Worksheet.Proofs.Json.Text

/-!
# Objects are read back as they were written

An object is written without blanks, each member as a key, a colon and a value.
Reading takes one member at a time, and what follows a number is a comma or a brace,
which does not continue it.  The main statement says that an object is read back if
its keys are those of the fields and its values are admitted by them.
-/

namespace Worksheet.Json

/-! ## Written form -/

/-- A value as it is written. -/
def FieldValue.write : FieldValue → List Char
  | natural value => Nat.toDigits 10 value
  | text value => writeText value

/-- What stands between the members of an object. -/
def separator (isFirst : Bool) : List Char :=
  if isFirst then [] else [',']

/-- A member of an object with the text after its colon. -/
def writeMember (isFirst : Bool) (name value : List Char) : List Char :=
  separator isFirst ++ '"' :: (name ++ '"' :: ':' :: value)

/-- The members of an object and its end. -/
def writeMembers (isFirst : Bool) : FieldValues → List Char
  | [] => ['\x7d']
  | (name, value) :: members => writeMember isFirst name (value.write ++ writeMembers false members)

theorem not_control_of_mem_write {value : FieldValue} {d : Char} (written : d ∈ value.write) :
    0x20 ≤ d.toNat := by
  cases value with
  | natural value =>
      have digit := Nat.isDigit_of_mem_toDigits (by decide) (by decide) written
      exact Nat.le_trans (by decide) (Char.isDigit_iff_toNat.1 digit).1
  | text value => exact not_control_of_mem_writeText written

/-- Nothing that is written is a control character, if the names are plain. -/
theorem not_control_of_mem_writeMembers {members : FieldValues}
    (plain : ∀ member ∈ members, IsPlain member.1) {isFirst : Bool} {d : Char}
    (written : d ∈ writeMembers isFirst members) : 0x20 ≤ d.toNat := by
  induction members generalizing isFirst with
  | nil =>
      rw [writeMembers, List.mem_singleton] at written
      rw [written]
      decide
  | cons member members ih =>
      obtain ⟨name, value⟩ := member
      obtain ⟨plainName, plainOthers⟩ := List.forall_mem_cons.1 plain
      simp only [writeMembers, writeMember, List.mem_append, List.mem_cons] at written
      rcases written with comma | rfl | inName | rfl | rfl | inValue | later
      · cases isFirst with
        | false =>
            obtain rfl := List.mem_singleton.1 comma
            decide
        | true => exact absurd comma List.not_mem_nil
      · decide
      · have itself : d ∈ writeChar d := by
          rw [plainName d inName]
          exact List.mem_singleton_self d
        exact not_control_of_mem_writeChar itself
      · decide
      · decide
      · exact not_control_of_mem_write inValue
      · exact ih plainOthers later

/-- The brace that ends an object is its last character. -/
theorem exists_writeMembers_concat (members : FieldValues) (isFirst : Bool) :
    ∃ before, writeMembers isFirst members = before ++ ['\x7d'] := by
  induction members generalizing isFirst with
  | nil => exact ⟨[], rfl⟩
  | cons member members ih =>
      obtain ⟨before, shape⟩ := ih false
      rw [writeMembers, shape, writeMember]
      exact ⟨separator isFirst ++ '"' :: (member.1 ++ '"' :: ':' :: (member.2.write ++ before)),
        by simp⟩

/-- A field of this kind can hold the value. -/
def FieldKind.Admits : FieldKind → FieldValue → Prop
  | natural limit, .natural value => value < limit ∧ value < 0x10000000000000000
  | text, .text _ => True
  | _, _ => False

/-- Members that can be read as values of fields. -/
structure Fits (fields : List Field) (members : FieldValues) : Prop where
  plain : ∀ member ∈ members, IsPlain member.1
  admitted : ∀ member ∈ members, ∃ field,
    fields.find? (fun field => field.name == member.1) = some field ∧ field.kind.Admits member.2
  distinct : (members.map Prod.fst).Nodup

theorem Fits.tail {fields : List Field} {member : List Char × FieldValue} {members : FieldValues}
    (fits : Fits fields (member :: members)) : Fits fields members where
  plain other among := fits.plain other (List.mem_cons_of_mem _ among)
  admitted other among := fits.admitted other (List.mem_cons_of_mem _ among)
  distinct := (List.nodup_cons.1 fits.distinct).2

/-! ## Values of fields -/

theorem isBlank_of_isDigit {c : Char} (digit : c.isDigit = true) : isBlank c = false := by
  rw [isBlank, ← Bool.not_eq_true]
  simp only [Bool.or_eq_true, beq_iff_eq]
  rintro (((rfl | rfl) | rfl) | rfl) <;> cases digit

/-- A written number is read back as the value of a field. -/
theorem readField_toDigits {limit number : Nat} (below : number < limit)
    (small : number < 0x10000000000000000) {c : Char} (ends : EndsNumber c) (rest : List Char) :
    readField (.natural limit) (Nat.toDigits 10 number ++ c :: rest) =
      .ok (.natural number, c :: rest) := by
  have read := readNumber_toDigits small ends rest
  have digits : ∀ d ∈ Nat.toDigits 10 number, d.isDigit = true :=
    fun d member => Nat.isDigit_of_mem_toDigits (by decide) (by decide) member
  cases shape : Nat.toDigits 10 number with
  | nil => exact absurd shape Nat.toDigits_ne_nil
  | cons first others =>
      rw [shape] at digits read
      have digit := digits first List.mem_cons_self
      have start : skipBlanks (first :: (others ++ c :: rest)) = first :: (others ++ c :: rest) :=
        skipBlanks_of_not_isBlank (isBlank_of_isDigit digit)
      rw [List.cons_append] at read ⊢
      simp only [readField, start, digit, Bool.or_true, if_true, read, if_pos below]

/-- A written string is read back as the value of a field. -/
theorem readField_writeText (text rest : List Char) :
    readField .text (writeText text ++ rest) = .ok (.text text, rest) := by
  have quoted : writeText text ++ rest = '"' :: (text.flatMap writeChar ++ '"' :: rest) := by
    simp [writeText]
  have start : skipBlanks ('"' :: (text.flatMap writeChar ++ '"' :: rest)) =
      '"' :: (text.flatMap writeChar ++ '"' :: rest) := skipBlanks_of_not_isBlank rfl
  simp only [readField, quoted, start, readText_flatMap_writeChar]

/-- A written value is read back in front of a character that does not continue a
number. -/
theorem readField_write {kind : FieldKind} {value : FieldValue} (admits : kind.Admits value)
    {c : Char} (ends : EndsNumber c) (rest : List Char) :
    readField kind (value.write ++ c :: rest) = .ok (value, c :: rest) := by
  cases kind with
  | natural limit =>
      cases value with
      | natural value => exact readField_toDigits admits.1 admits.2 ends rest
      | text value => exact admits.elim
  | text =>
      cases value with
      | natural value => exact admits.elim
      | text value => exact readField_writeText value (c :: rest)

/-! ## Members -/

theorem nextKey_separator (isFirst : Bool) (key : List Char) :
    nextKey isFirst (separator isFirst ++ '"' :: key) = .ok (true, key) := by
  cases isFirst <;> rfl

theorem readKey_of_plain {fields : List Field} {found : FieldValues} {name : List Char}
    {field : Field} (plain : IsPlain name)
    (known : fields.find? (fun field => field.name == name) = some field)
    (new : found.lookup name = none) (value : List Char) :
    readKey fields found (name ++ '"' :: ':' :: value) = .ok (some field, value) := by
  rw [readKey, readText_of_plain plain]
  simp [known, new, skipBlanks, isBlank, expect]

/-- Reading goes on behind a member whose value can be read. -/
theorem readMembers_writeMember {fields : List Field} {found : FieldValues} {name : List Char}
    {field : Field} {meant : FieldValue} {value rest : List Char}
    (plain : IsPlain name)
    (known : fields.find? (fun field => field.name == name) = some field)
    (new : found.lookup name = none)
    (reads : readField field.kind value = .ok (meant, rest)) (isFirst : Bool) :
    readMembers fields isFirst found (writeMember isFirst name value) =
      readMembers fields false ((field.name, meant) :: found) rest := by
  have key := readKey_of_plain plain known new value
  have next := nextKey_separator isFirst (name ++ '"' :: ':' :: value)
  rw [writeMember, readMembers]
  -- The branches of the definition know which result they are for, so a result is not
  -- rewritten but named and then replaced.
  generalize nextKey isFirst _ = step at next
  subst next
  dsimp only
  generalize readKey fields found _ = keyed at key
  subst key
  dsimp only
  generalize readField field.kind value = entry at reads
  subst reads
  rfl

/-- An object ends with a brace if no required field is missing. -/
theorem readMembers_end {fields : List Field} {found : FieldValues}
    (complete : ∀ field ∈ fields, field.required = true → (found.lookup field.name).isSome = true)
    (isFirst : Bool) (rest : List Char) :
    readMembers fields isFirst found ('\x7d' :: rest) = .ok (found, rest) := by
  have next : nextKey isFirst ('\x7d' :: rest) = .ok (false, rest) := rfl
  have nothingMissing : (fields.any fun field =>
      field.required && (found.lookup field.name).isNone) = false := by
    rw [List.any_eq_false]
    intro field member missing
    rw [Bool.and_eq_true] at missing
    have present := complete field member missing.1
    rw [Option.isNone_iff_eq_none.1 missing.2] at present
    cases present
  rw [readMembers]
  generalize nextKey isFirst _ = step at next
  subst next
  dsimp only
  rw [nothingMissing]
  rfl

/-- What follows a value does not continue a number. -/
theorem exists_writeMembers_cons (members : FieldValues) :
    ∃ c rest, writeMembers false members = c :: rest ∧ EndsNumber c := by
  cases members with
  | nil => exact ⟨'\x7d', [], rfl, by decide⟩
  | cons member members => exact ⟨',', _, rfl, by decide⟩

theorem name_of_find? {fields : List Field} {name : List Char} {field : Field}
    (known : fields.find? (fun field => field.name == name) = some field) : field.name = name := by
  simpa using List.find?_some known

/-- Members that fit are read in addition to what has been found before. -/
theorem readMembers_writeMembers {fields : List Field} {members : FieldValues}
    (fits : Fits fields members) {found : FieldValues}
    (new : ∀ member ∈ members, found.lookup member.1 = none)
    (complete : ∀ field ∈ fields, field.required = true →
      field.name ∈ members.map Prod.fst ∨ (found.lookup field.name).isSome = true)
    (isFirst : Bool) :
    readMembers fields isFirst found (writeMembers isFirst members) =
      .ok (members.reverse ++ found, []) := by
  induction members generalizing found isFirst with
  | nil =>
      refine readMembers_end ?_ isFirst []
      intro field member required
      rcases complete field member required with absent | present
      · exact absurd absent List.not_mem_nil
      · exact present
  | cons member members ih =>
      obtain ⟨name, value⟩ := member
      obtain ⟨field, known, admits⟩ := fits.admitted (name, value) List.mem_cons_self
      obtain ⟨c, rest, next, ends⟩ := exists_writeMembers_cons members
      have reads := readField_write admits ends rest
      rw [← next] at reads
      have distinct := List.nodup_cons.1 fits.distinct
      rw [writeMembers, readMembers_writeMember (fits.plain (name, value) List.mem_cons_self) known
        (new (name, value) List.mem_cons_self) reads, name_of_find? known, ih]
      · simp
      · exact fits.tail
      · intro other among
        have apart : other.1 ≠ name := by
          intro same
          have listed : other.1 ∈ members.map Prod.fst := List.mem_map_of_mem among
          rw [same] at listed
          exact distinct.1 listed
        rw [List.lookup_cons, beq_false_of_ne apart]
        exact new other (List.mem_cons_of_mem _ among)
      · intro other among required
        rcases complete other among required with listed | present
        · rcases List.mem_cons.1 listed with same | later
          · right
            rw [same, List.lookup_cons, BEq.rfl]
            rfl
          · exact .inl later
        · right
          rw [List.lookup_cons]
          split
          · rfl
          · exact present

/-- An object whose members fit is read back, the last member first. -/
theorem read_writeMembers {fields : List Field} {members : FieldValues}
    (fits : Fits fields members)
    (complete : ∀ field ∈ fields, field.required = true → field.name ∈ members.map Prod.fst) :
    read fields ('\x7b' :: writeMembers true members) = .ok members.reverse := by
  have whole : readMembers fields true [] (writeMembers true members) =
      .ok (members.reverse ++ [], []) :=
    readMembers_writeMembers fits (fun _ _ => rfl)
      (fun field member required => .inl (complete field member required)) true
  have opened : readFields fields ('\x7b' :: writeMembers true members) =
      readMembers fields true [] (writeMembers true members) := by
    simp [readFields, skipBlanks, isBlank]
  rw [read, opened, whole]
  simp [skipBlanks]

end Worksheet.Json
