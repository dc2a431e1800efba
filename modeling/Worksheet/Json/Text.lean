import Worksheet.Json.Fault

/-!
# JSON strings

A JSON string stands between double quotes.  In writing, quotes, backslashes
and control characters are escaped and all else stands for itself.  In reading,
every escape of the JSON format is understood.  A character outside the basic
plane may be given as a pair of surrogates, and a surrogate that is not part of
such a pair is a fault, as is a bare control character.

An escape `\u` needs four hexadecimal digits.  If fewer than four bytes are
left the text has ended too early, and otherwise it is not JSON.
-/

namespace Worksheet.Json

/-! ## Writing -/

/-- One character as it is written in a string. -/
def writeChar (c : Char) : List Char :=
  if c = '"' then ['\\', '"']
  else if c = '\\' then ['\\', '\\']
  else if c = '\x08' then ['\\', 'b']
  else if c = '\x0c' then ['\\', 'f']
  else if c = '\n' then ['\\', 'n']
  else if c = '\r' then ['\\', 'r']
  else if c = '\t' then ['\\', 't']
  else if c.toNat < 0x20 then
    ['\\', 'u', '0', '0', Nat.digitChar (c.toNat / 16), Nat.digitChar (c.toNat % 16)]
  else [c]

/-- A text as a JSON string. -/
def writeText (text : List Char) : List Char :=
  '"' :: text.flatMap writeChar ++ ['"']

/-! ## Reading -/

/-- The character that a one-letter escape stands for. -/
def shortEscape? (c : Char) : Option Char :=
  if c = '"' then some '"'
  else if c = '\\' then some '\\'
  else if c = '/' then some '/'
  else if c = 'b' then some '\x08'
  else if c = 'f' then some '\x0c'
  else if c = 'n' then some '\n'
  else if c = 'r' then some '\r'
  else if c = 't' then some '\t'
  else none

/-- The value of a hexadecimal digit. -/
def hexDigit? (c : Char) : Option Nat :=
  if '0' ≤ c ∧ c ≤ '9' then some (c.toNat - '0'.toNat)
  else if 'a' ≤ c ∧ c ≤ 'f' then some (c.toNat - 'a'.toNat + 10)
  else if 'A' ≤ c ∧ c ≤ 'F' then some (c.toNat - 'A'.toNat + 10)
  else none

/-- The fault of a text that should start with four hexadecimal digits and does not. -/
def hexFault (text : List Char) : Fault :=
  let size := (text.take 4).foldr (fun c size => c.utf8Size + size) 0
  if size < 4 then .truncated else .malformed

/-- Read four hexadecimal digits. -/
def readHex (text : List Char) : Except Fault (Nat × List Char) :=
  match text with
  | a :: b :: c :: d :: rest =>
      match hexDigit? a, hexDigit? b, hexDigit? c, hexDigit? d with
      | some a, some b, some c, some d => .ok (((a * 16 + b) * 16 + c) * 16 + d, rest)
      | _, _, _, _ => .error .malformed
  | _ => .error (hexFault text)

/-- Is this the first half of a pair of surrogates? -/
def isLeadingSurrogate (code : Nat) : Bool :=
  0xD800 ≤ code && code ≤ 0xDBFF

/-- Is this the second half of a pair of surrogates? -/
def isTrailingSurrogate (code : Nat) : Bool :=
  0xDC00 ≤ code && code ≤ 0xDFFF

/-- Read what follows the first half of a pair of surrogates, and give the
character that the pair stands for. -/
def readTrailing (leading : Nat) (text : List Char) : Except Fault (Char × List Char) :=
  match finishWord ['\\', 'u'] text with
  | .error fault => .error fault
  | .ok digits =>
      match readHex digits with
      | .error fault => .error fault
      | .ok (trailing, rest) =>
          if isTrailingSurrogate trailing then
            .ok (Char.ofNat (0x10000 + (leading - 0xD800) * 0x400 + (trailing - 0xDC00)), rest)
          else .error .malformed

/-- Read an escape after its backslash. -/
def readEscape : List Char → Except Fault (Char × List Char)
  | [] => .error .truncated
  | c :: rest =>
      if c = 'u' then
        match readHex rest with
        | .error fault => .error fault
        | .ok (code, after) =>
            if isTrailingSurrogate code then .error .malformed
            else if isLeadingSurrogate code then readTrailing code after
            else .ok (Char.ofNat code, after)
      else
        match shortEscape? c with
        | some meant => .ok (meant, rest)
        | none => .error .malformed

/-- What follows four hexadecimal digits is shorter. -/
theorem length_le_of_readHex {text rest : List Char} {code : Nat}
    (h : readHex text = .ok (code, rest)) : rest.length ≤ text.length := by
  unfold readHex at h
  split at h
  · split at h
    · injection h with h
      obtain ⟨_, rfl⟩ := Prod.mk.inj h
      simp only [List.length_cons]
      omega
    · simp at h
  · simp at h

/-- What follows an escape is not longer. -/
theorem length_le_of_readEscape {text rest : List Char} {c : Char}
    (h : readEscape text = .ok (c, rest)) : rest.length ≤ text.length := by
  cases text with
  | nil => simp [readEscape] at h
  | cons d tail =>
      simp only [readEscape] at h
      split at h
      · split at h
        · simp at h
        · next code after found =>
            have first := length_le_of_readHex found
            split at h
            · simp at h
            · split at h
              · simp only [readTrailing] at h
                split at h
                · simp at h
                · next word =>
                    have second := length_le_of_finishWord word
                    split at h
                    · simp at h
                    · next digits =>
                        have third := length_le_of_readHex digits
                        split at h
                        · injection h with h
                          obtain ⟨_, rfl⟩ := Prod.mk.inj h
                          simp only [List.length_cons]
                          omega
                        · simp at h
              · injection h with h
                obtain ⟨_, rfl⟩ := Prod.mk.inj h
                simp only [List.length_cons]
                omega
      · split at h
        · injection h with h
          obtain ⟨_, rfl⟩ := Prod.mk.inj h
          simp
        · simp at h

/-- Read a string after its opening quote.  The characters read so far are
reversed. -/
def readTextFrom (found : List Char) : List Char → Except Fault (List Char × List Char)
  | [] => .error .truncated
  | c :: rest =>
      if c = '"' then .ok (found.reverse, rest)
      else if c = '\\' then
        match _escape : readEscape rest with
        | .error fault => .error fault
        | .ok (meant, after) => readTextFrom (meant :: found) after
      else if c.toNat < 0x20 then .error .malformed
      else readTextFrom (c :: found) rest
termination_by text => text.length
decreasing_by
  · exact Nat.lt_succ_of_le (length_le_of_readEscape _escape)
  · simp

/-- Read a string after its opening quote. -/
def readText (text : List Char) : Except Fault (List Char × List Char) :=
  readTextFrom [] text

/-- What follows a string is not longer. -/
theorem length_le_of_readTextFrom {found text meant rest : List Char}
    (h : readTextFrom found text = .ok (meant, rest)) : rest.length ≤ text.length := by
  fun_induction readTextFrom found text with
  | case1 => simp at h
  | case2 =>
      injection h with h
      obtain ⟨_, rfl⟩ := Prod.mk.inj h
      simp
  | case3 => simp at h
  | case4 _ _ _ _ escape _ ih =>
      have := length_le_of_readEscape escape
      have := ih h
      simp only [List.length_cons]
      omega
  | case5 => simp at h
  | case6 _ _ _ _ _ _ ih =>
      have := ih h
      simp only [List.length_cons]
      omega

end Worksheet.Json
