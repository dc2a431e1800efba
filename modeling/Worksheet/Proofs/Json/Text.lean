import Mathlib.Data.List.Basic
import Mathlib.Tactic.SplitIfs
import Worksheet.Json.Text

/-!
# Strings are read back as they were written

A character is written as itself or as an escape, and both are read back as that
character whatever follows.  The main statement is the same for whole strings.  No
written character is a control character, so a string stays on one line.
-/

namespace Worksheet.Json

/-! ## One character -/

theorem hexDigit?_digitChar {digit : Nat} (small : digit < 16) :
    hexDigit? (Nat.digitChar digit) = some digit :=
  (by decide : ∀ digit < 16, hexDigit? (Nat.digitChar digit) = some digit) digit small

/-- The escape of a control character is read back. -/
theorem readEscape_control {c : Char} (control : c.toNat < 0x20) (rest : List Char) :
    readEscape ('u' :: '0' :: '0' :: Nat.digitChar (c.toNat / 16) ::
      Nat.digitChar (c.toNat % 16) :: rest) = .ok (c, rest) := by
  have high := hexDigit?_digitChar (show c.toNat / 16 < 16 by omega)
  have low := hexDigit?_digitChar (show c.toNat % 16 < 16 by omega)
  have zero : hexDigit? '0' = some 0 := by decide
  have code : c.toNat / 16 * 16 + c.toNat % 16 = c.toNat := by omega
  have trailing : isTrailingSurrogate c.toNat = false := by
    simp only [isTrailingSurrogate, Bool.and_eq_false_iff, decide_eq_false_iff_not]
    omega
  have leading : isLeadingSurrogate c.toNat = false := by
    simp only [isLeadingSurrogate, Bool.and_eq_false_iff, decide_eq_false_iff_not]
    omega
  simp [readEscape, readHex, zero, high, low, code, trailing, leading]

theorem readTextFrom_escape {found text rest : List Char} {c : Char}
    (escape : readEscape text = .ok (c, rest)) :
    readTextFrom found ('\\' :: text) = readTextFrom (c :: found) rest := by
  rw [readTextFrom, if_neg (by decide), if_pos rfl]
  generalize readEscape text = character at escape
  subst escape
  rfl

/-- A written character is read back, whatever follows. -/
theorem readTextFrom_writeChar (c : Char) (found rest : List Char) :
    readTextFrom found (writeChar c ++ rest) = readTextFrom (c :: found) rest := by
  unfold writeChar
  split_ifs with quote backslash backspace formFeed lineFeed carriageReturn tab control
  case pos | pos | pos | pos | pos | pos | pos =>
    subst c
    exact readTextFrom_escape rfl
  · exact readTextFrom_escape (readEscape_control control rest)
  · rw [List.singleton_append, readTextFrom, if_neg quote, if_neg backslash, if_neg control]

/-- Nothing that is written is a control character. -/
theorem not_control_of_mem_writeChar {c d : Char} (written : d ∈ writeChar c) :
    0x20 ≤ d.toNat := by
  have hexadecimal : ∀ digit < 16, 0x20 ≤ (Nat.digitChar digit).toNat := by decide
  unfold writeChar at written
  split_ifs at written with quote backslash backspace formFeed lineFeed carriageReturn tab control
  case pos | pos | pos | pos | pos | pos | pos =>
    simp only [List.mem_cons, List.not_mem_nil, or_false] at written
    rcases written with rfl | rfl <;> decide
  · have high := hexadecimal (c.toNat / 16) (by omega)
    have low := hexadecimal (c.toNat % 16) (by omega)
    simp only [List.mem_cons, List.not_mem_nil, or_false] at written
    rcases written with rfl | rfl | rfl | rfl | rfl | rfl
    case inr.inr.inr.inr.inl => exact high
    case inr.inr.inr.inr.inr => exact low
    all_goals decide
  · rw [List.mem_singleton] at written
    rw [written]
    omega

/-! ## Whole strings -/

theorem readTextFrom_flatMap_writeChar (text found rest : List Char) :
    readTextFrom found (text.flatMap writeChar ++ '"' :: rest) =
      .ok (found.reverse ++ text, rest) := by
  induction text generalizing found with
  | nil => simp [readTextFrom]
  | cons c text ih =>
      rw [List.flatMap_cons, List.append_assoc, readTextFrom_writeChar, ih]
      simp

/-- A written string is read back after its opening quote. -/
theorem readText_flatMap_writeChar (text rest : List Char) :
    readText (text.flatMap writeChar ++ '"' :: rest) = .ok (text, rest) := by
  rw [readText, readTextFrom_flatMap_writeChar]
  rfl

/-- All characters of the text stand for themselves in a string. -/
def IsPlain (text : List Char) : Prop :=
  ∀ c ∈ text, writeChar c = [c]

instance (text : List Char) : Decidable (IsPlain text) :=
  decidable_of_iff ((text.all fun c => writeChar c == [c]) = true) (by simp [IsPlain])

/-- A plain text is read back as it stands. -/
theorem readText_of_plain {text : List Char} (plain : IsPlain text) (rest : List Char) :
    readText (text ++ '"' :: rest) = .ok (text, rest) := by
  have same : text.flatMap writeChar = text := by
    rw [List.flatMap_congr plain, List.flatMap_singleton']
  have back := readText_flatMap_writeChar text rest
  rwa [same] at back

theorem not_control_of_mem_writeText {text : List Char} {d : Char} (written : d ∈ writeText text) :
    0x20 ≤ d.toNat := by
  rw [writeText, List.mem_append, List.mem_cons, List.mem_flatMap, List.mem_singleton] at written
  rcases written with (rfl | ⟨c, _, inside⟩) | rfl
  · decide
  · exact not_control_of_mem_writeChar inside
  · decide

end Worksheet.Json
