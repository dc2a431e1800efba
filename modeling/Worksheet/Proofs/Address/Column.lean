import Worksheet.Address.Basic

/-!
# Column letters are read back as they were written

The letters of a column are written from the last one to the first.  Reading them
adds up the same number, as long as it stays within the limit.
-/

namespace Worksheet.Column

/-- The letter for a digit is read as that digit, which is counted from one. -/
theorem digit?_letter {digit : Nat} (small : digit < 26) :
    digit? (letter digit) = some (digit + 1) :=
  (by decide : ∀ digit < 26, digit? (letter digit) = some (digit + 1)) digit small

theorem numberFrom?_letter {number digit : Nat} (small : digit < 26)
    (below : number * 26 + (digit + 1) < gridLimit) (rest : List Char) :
    numberFrom? number (letter digit :: rest) = numberFrom? (number * 26 + (digit + 1)) rest := by
  simp only [numberFrom?, digit?_letter small, if_pos below]

/-- The letters of a column add up to its number counted from one. -/
theorem numberFrom?_lettersBefore {column : Nat} (below : column + 1 < gridLimit)
    (written : List Char) :
    numberFrom? 0 (lettersBefore column written) = numberFrom? (column + 1) written := by
  induction column, written using lettersBefore.induct with
  | case1 column written small =>
      rw [lettersBefore, if_pos small, Nat.mod_eq_of_lt small,
        numberFrom?_letter small (by omega), Nat.zero_mul, Nat.zero_add]
  | case2 column written longer large ih =>
      have digit : column % 26 < 26 := Nat.mod_lt _ (by decide)
      have number : column / 26 * 26 + (column % 26 + 1) = column + 1 := by omega
      rw [lettersBefore, if_neg large, ih (by omega),
        Nat.sub_add_cancel (by omega), numberFrom?_letter digit (by omega), number]

theorem lettersBefore_ne_nil (column : Nat) (written : List Char) :
    lettersBefore column written ≠ [] := by
  induction column, written using lettersBefore.induct with
  | case1 column written small =>
      rw [lettersBefore, if_pos small]
      exact List.cons_ne_nil _ _
  | case2 column written longer large ih =>
      rw [lettersBefore, if_neg large]
      exact ih

/-- The letters of a column name that column. -/
theorem ofLetters?_letters {column : Nat} (below : column + 1 < gridLimit) :
    ofLetters? (letters column) = some column := by
  have nonempty : (letters column).isEmpty = false := by
    rw [List.isEmpty_eq_false_iff]
    exact lettersBefore_ne_nil column []
  rw [ofLetters?, nonempty, letters, numberFrom?_lettersBefore below, numberFrom?]
  rfl

end Worksheet.Column
