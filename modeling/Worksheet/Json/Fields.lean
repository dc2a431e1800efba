import Worksheet.Json.Number
import Worksheet.Json.Skip

/-!
# Values with named fields

A value with named fields is read from a JSON object or from a JSON list of its
fields in order.  Some fields are required.  In an object the keys may come in
any order, a key of no field is passed over with its value, and a field may be
given once only.  In a list the fields that are left out are the last ones, and
there is nothing after the fields.

All faults are reported in the order in which the text is read.  A repeated
field is noticed at its key, and a missing one at the end of the object.
-/

namespace Worksheet.Json

/-- What a field can hold. -/
inductive FieldKind where
  /-- A natural number below a limit. -/
  | natural (limit : Nat)
  | text
  deriving DecidableEq, Repr

/-- The value of a field. -/
inductive FieldValue where
  | natural (value : Nat)
  | text (value : List Char)
  deriving DecidableEq, Repr

/-- A field that is looked for. -/
structure Field where
  name : List Char
  kind : FieldKind
  required : Bool
  deriving Repr

/-- Values of fields under their names. -/
abbrev FieldValues := List (List Char × FieldValue)

/-- The value of a field that holds a natural number. -/
def FieldValues.natural? (values : FieldValues) (name : List Char) : Option Nat :=
  match values.lookup name with
  | some (.natural value) => some value
  | _ => none

/-- The value of a field that holds a text. -/
def FieldValues.text? (values : FieldValues) (name : List Char) : Option (List Char) :=
  match values.lookup name with
  | some (.text value) => some value
  | _ => none

/-! ## One field -/

/-- The fault of a value that cannot be the value of a field.  A fault inside
the value counts first. -/
def misfit (text : List Char) : Fault :=
  match text with
  | [] => .truncated
  | c :: rest =>
      let afterWord (word : List Char) : Fault :=
        match finishWord word rest with
        | .error fault => fault
        | .ok _ => .mismatched
      if c = 'n' then afterWord "ull".toList
      else if c = 't' then afterWord "rue".toList
      else if c = 'f' then afterWord "alse".toList
      else if c = '-' || c.isDigit then
        match readNumber text with
        | .error fault => fault
        | .ok _ => .mismatched
      else if c = '"' then
        match readText rest with
        | .error fault => fault
        | .ok _ => .mismatched
      else if c = '[' || c = '\x7b' then .mismatched
      else .malformed

/-- Read the value of a field. -/
def readField (kind : FieldKind) (text : List Char) : Except Fault (FieldValue × List Char) :=
  let start := skipBlanks text
  match kind with
  | .natural limit =>
      match start with
      | [] => .error .truncated
      | c :: _ =>
          if c = '-' || c.isDigit then
            match readNumber start with
            | .error fault => .error fault
            | .ok (.natural value, rest) =>
                if value < limit then .ok (.natural value, rest) else .error .mismatched
            | .ok (.other, _) => .error .mismatched
          else .error (misfit start)
  | .text =>
      match start with
      | '"' :: tail =>
          match readText tail with
          | .error fault => .error fault
          | .ok (value, rest) => .ok (.text value, rest)
      | _ => .error (misfit start)

/-- What follows a number is not longer. -/
theorem length_le_of_readNumber {text rest : List Char} {number : Number}
    (h : readNumber text = .ok (number, rest)) : rest.length ≤ text.length := by
  have drop (some_text : List Char) :
      (some_text.dropWhile Char.isDigit).length ≤ some_text.length :=
    (List.dropWhile_sublist _).length_le
  have fraction {some_text digits after : List Char}
      (found : readFraction some_text = .ok (digits, after)) :
      after.length ≤ some_text.length := by
    unfold readFraction at found
    split at found
    · next tail =>
        split at found
        · simp at found
        · injection found with found
          obtain ⟨_, rfl⟩ := Prod.mk.inj found
          exact Nat.le_succ_of_le (drop tail)
    · injection found with found
      obtain ⟨_, rfl⟩ := Prod.mk.inj found
      exact Nat.le_refl _
  have exponent {some_text after : List Char} {size : Option (Bool × Nat)}
      (found : readExponent some_text = .ok (size, after)) :
      after.length ≤ some_text.length := by
    unfold readExponent at found
    split at found
    · injection found with found
      obtain ⟨_, rfl⟩ := Prod.mk.inj found
      exact Nat.le_refl _
    · next c tail =>
        split at found
        · have unsigned : (Decimal.readSign tail).2.length ≤ tail.length := by
            unfold Decimal.readSign
            split <;> simp
          dsimp only at found
          split at found
          · simp at found
          · injection found with found
            obtain ⟨_, rfl⟩ := Prod.mk.inj found
            exact Nat.le_succ_of_le (Nat.le_trans (drop _) unsigned)
        · injection found with found
          obtain ⟨_, rfl⟩ := Prod.mk.inj found
          exact Nat.le_refl _
  have unsigned {negative : Bool} {some_text : List Char}
      (found : readUnsigned negative some_text = .ok (number, rest)) :
      rest.length ≤ some_text.length := by
    unfold readUnsigned at found
    split at found
    · simp at found
    · next c tail =>
        split at found
        · simp at found
        · dsimp only at found
          split at found
          · simp at found
          · split at found
            · simp at found
            · next digits after isFraction =>
                split at found
                · simp at found
                · next size final isExponent =>
                    have whole := drop (c :: tail)
                    have first := fraction isFraction
                    have second := exponent isExponent
                    split at found
                    · injection found with found
                      obtain ⟨_, rfl⟩ := Prod.mk.inj found
                      omega
                    · split at found
                      · simp at found
                      · injection found with found
                        obtain ⟨_, rfl⟩ := Prod.mk.inj found
                        omega
  unfold readNumber at h
  split at h
  · exact Nat.le_succ_of_le (unsigned h)
  · exact unsigned h

/-- What follows the value of a field is not longer. -/
theorem length_le_of_readField {kind : FieldKind} {text rest : List Char} {value : FieldValue}
    (h : readField kind text = .ok (value, rest)) : rest.length ≤ text.length := by
  have blanks := length_skipBlanks_le text
  unfold readField at h
  dsimp only at h
  split at h
  · split at h
    · simp at h
    · next c tail start =>
        rw [start] at h
        split at h
        · split at h
          · simp at h
          · next number =>
              split at h
              · injection h with h
                obtain ⟨_, rfl⟩ := Prod.mk.inj h
                have := length_le_of_readNumber number
                rw [start] at blanks
                omega
              · simp at h
          · simp at h
        · simp at h
  · split at h
    · next tail start =>
        split at h
        · simp at h
        · next string =>
            injection h with h
            obtain ⟨_, rfl⟩ := Prod.mk.inj h
            have := length_le_of_readTextFrom string
            rw [start] at blanks
            simp only [List.length_cons] at blanks
            omega
    · simp at h

/-! ## Lists of fields -/

/-- Take away the end of a list. -/
def expectListEnd (text : List Char) : Except Fault (List Char) :=
  expect ']' (skipBlanks text)

/-- Read the remaining fields from the items of a list and the end of the list. -/
def readItems (isFirst : Bool) (found : FieldValues) :
    List Field → List Char → Except Fault (FieldValues × List Char)
  | [], text =>
      match expectListEnd text with
      | .error fault => .error fault
      | .ok rest => .ok (found, rest)
  | field :: fields, text =>
      match skipBlanks text with
      | [] => .error .truncated
      | c :: rest =>
          if c = ']' then
            if (field :: fields).any Field.required then .error .mismatched
            else .ok (found, rest)
          else if isFirst then
            match readField field.kind (c :: rest) with
            | .error fault => .error fault
            | .ok (value, after) => readItems false ((field.name, value) :: found) fields after
          else if c = ',' then
            match skipBlanks rest with
            | [] => .error .truncated
            | d :: item =>
                if d = ']' then .error .malformed
                else
                  match readField field.kind (d :: item) with
                  | .error fault => .error fault
                  | .ok (value, after) =>
                      readItems false ((field.name, value) :: found) fields after
          else .error .malformed

/-! ## Objects -/

/-- Read a key after its opening quote, together with the colon after it.  A
field that has a value already is a fault before the colon is looked at. -/
def readKey (fields : List Field) (found : FieldValues) (text : List Char) :
    Except Fault (Option Field × List Char) :=
  match readText text with
  | .error fault => .error fault
  | .ok (key, afterKey) =>
      let field := fields.find? fun field => field.name == key
      if field.isSome && (found.lookup key).isSome then .error .mismatched
      else
        match expect ':' (skipBlanks afterKey) with
        | .error fault => .error fault
        | .ok rest => .ok (field, rest)

/-- What follows a key is not longer. -/
theorem length_le_of_readKey {fields : List Field} {found : FieldValues}
    {text rest : List Char} {field : Option Field}
    (h : readKey fields found text = .ok (field, rest)) : rest.length ≤ text.length := by
  unfold readKey at h
  split at h
  · simp at h
  · next key afterKey string =>
      have first := length_le_of_readTextFrom string
      have second := length_skipBlanks_le afterKey
      dsimp only at h
      split at h
      · simp at h
      · split at h
        · simp at h
        · next colon =>
            have third := length_lt_of_expect colon
            injection h with h
            obtain ⟨_, rfl⟩ := Prod.mk.inj h
            omega

/-- The start of the next member of an object: the text after the opening quote
of its key, or nothing together with the text after the object. -/
def nextKey (isFirst : Bool) (text : List Char) : Except Fault (Bool × List Char) :=
  match skipBlanks text with
  | [] => .error .truncated
  | c :: rest =>
      if c = '\x7d' then .ok (false, rest)
      else if isFirst then
        if c = '"' then .ok (true, rest) else .error .malformed
      else if c = ',' then
        match expect '"' (skipBlanks rest) with
        | .error fault => .error fault
        | .ok after => .ok (true, after)
      else .error .malformed

/-- What follows the start of a key is shorter. -/
theorem length_lt_of_nextKey {isFirst more : Bool} {text rest : List Char}
    (h : nextKey isFirst text = .ok (more, rest)) : rest.length < text.length := by
  have blanks := length_skipBlanks_le text
  unfold nextKey at h
  split at h
  · simp at h
  · next c tail start =>
      rw [start, List.length_cons] at blanks
      split at h
      · injection h with h
        obtain ⟨_, rfl⟩ := Prod.mk.inj h
        omega
      · split at h
        · split at h
          · injection h with h
            obtain ⟨_, rfl⟩ := Prod.mk.inj h
            omega
          · simp at h
        · split at h
          · split at h
            · simp at h
            · next quote =>
                have := length_lt_of_expect quote
                have := length_skipBlanks_le tail
                injection h with h
                obtain ⟨_, rfl⟩ := Prod.mk.inj h
                omega
          · simp at h

/-- Read the members of an object and its end. -/
def readMembers (fields : List Field) (isFirst : Bool) (found : FieldValues)
    (text : List Char) : Except Fault (FieldValues × List Char) :=
  match _next : nextKey isFirst text with
  | .error fault => .error fault
  | .ok (false, rest) =>
      if fields.any fun field => field.required && (found.lookup field.name).isNone then
        .error .mismatched
      else .ok (found, rest)
  | .ok (true, key) =>
      match _key : readKey fields found key with
      | .error fault => .error fault
      | .ok (none, value) =>
          match _value : skipValue value with
          | .error fault => .error fault
          | .ok rest => readMembers fields false found rest
      | .ok (some field, value) =>
          match _value : readField field.kind value with
          | .error fault => .error fault
          | .ok (meant, rest) => readMembers fields false ((field.name, meant) :: found) rest
termination_by text.length
decreasing_by
  · have := length_lt_of_nextKey _next
    have := length_le_of_readKey _key
    have := length_le_of_skipFrom _value
    omega
  · have := length_lt_of_nextKey _next
    have := length_le_of_readKey _key
    have := length_le_of_readField _value
    omega

/-! ## Whole texts -/

/-- Read a value with named fields, and give the text after it. -/
def readFields (fields : List Field) (text : List Char) : Except Fault (FieldValues × List Char) :=
  match skipBlanks text with
  | [] => .error .truncated
  | c :: rest =>
      if c = '[' then readItems true [] fields rest
      else if c = '\x7b' then readMembers fields true [] rest
      else .error (misfit (c :: rest))

/-- Read a whole text as a value with named fields.  Only blanks may follow it. -/
def read (fields : List Field) (text : List Char) : Except Fault FieldValues :=
  match readFields fields text with
  | .error fault => .error fault
  | .ok (values, rest) => if (skipBlanks rest).isEmpty then .ok values else .error .malformed

end Worksheet.Json
