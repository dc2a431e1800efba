import Worksheet.Json.Number

/-!
# Natural numbers are read back as they were written

A natural number is written in decimal digits without leading zeros.  If it fits in
64 bits it is read back, as long as what follows does not continue the number.
-/

namespace Worksheet.Json

/-! ## Digits -/

/-- More digits make a number larger. -/
theorem le_ofDigitChars (digits : List Char) (number : Nat) :
    number ≤ Nat.ofDigitChars 10 digits number := by
  induction digits generalizing number with
  | nil => exact Nat.le_refl _
  | cons c digits ih =>
      rw [Nat.ofDigitChars_cons]
      exact Nat.le_trans (by omega) (ih _)

/-- The digits of a number that fits in 64 bits are all taken. -/
theorem takeDigits_of_lt {digits : List Char} {number : Nat}
    (small : Nat.ofDigitChars 10 digits number < 0x10000000000000000) :
    takeDigits number digits = (Nat.ofDigitChars 10 digits number, []) := by
  induction digits generalizing number with
  | nil => rfl
  | cons c digits ih =>
      rw [Nat.ofDigitChars_cons, Nat.mul_comm] at small
      have fits := Nat.lt_of_le_of_lt (le_ofDigitChars digits _) small
      rw [takeDigits, if_pos fits, Nat.ofDigitChars_cons, Nat.mul_comm 10]
      exact ih small

/-- A number is written without leading zeros. -/
theorem exists_toDigits_cons {number : Nat} (positive : 0 < number) :
    ∃ first rest, Nat.toDigits 10 number = first :: rest ∧ first ≠ '0' := by
  induction number using Nat.strongRecOn with
  | ind number ih =>
      by_cases small : number < 10
      · refine ⟨Nat.digitChar number, [], Nat.toDigits_of_lt_base small, ?_⟩
        exact (by decide : ∀ digit < 10, 0 < digit → Nat.digitChar digit ≠ '0') number small
          positive
      · obtain ⟨first, rest, shape, nonzero⟩ :=
          ih (number / 10) (Nat.div_lt_self positive (by decide)) (by omega)
        refine ⟨first, rest ++ [Nat.digitChar (number % 10)], ?_, nonzero⟩
        rw [Nat.toDigits_of_base_le (by decide) (Nat.le_of_not_lt small), shape, List.cons_append]

/-- Digits that start with a zero are those of zero. -/
theorem toDigits_eq_of_head_zero {number : Nat} {rest : List Char}
    (zero : Nat.toDigits 10 number = '0' :: rest) : rest = [] := by
  cases number with
  | zero =>
      cases zero
      rfl
  | succ number =>
      obtain ⟨first, others, shape, nonzero⟩ := exists_toDigits_cons (Nat.succ_pos number)
      rw [zero] at shape
      exact absurd (List.cons.inj shape).1.symm nonzero

/-! ## Numbers -/

/-- A character that does not continue a number. -/
def EndsNumber (c : Char) : Prop :=
  c.isDigit = false ∧ c ≠ '.' ∧ c ≠ 'e' ∧ c ≠ 'E'

instance (c : Char) : Decidable (EndsNumber c) :=
  inferInstanceAs (Decidable (_ ∧ _))

theorem readFraction_of_ne {c : Char} (noPoint : c ≠ '.') (rest : List Char) :
    readFraction (c :: rest) = .ok ([], c :: rest) := by
  unfold readFraction
  split
  · next tail same => exact absurd (List.cons.inj same).1 noPoint
  · rfl

theorem readExponent_of_ne {c : Char} (small : c ≠ 'e') (capital : c ≠ 'E') (rest : List Char) :
    readExponent (c :: rest) = .ok (none, c :: rest) := by
  simp [readExponent, small, capital]

/-- A written number that fits in 64 bits is read back. -/
theorem readNumber_toDigits {number : Nat} (small : number < 0x10000000000000000) {c : Char}
    (ends : EndsNumber c) (rest : List Char) :
    readNumber (Nat.toDigits 10 number ++ c :: rest) = .ok (.natural number, c :: rest) := by
  obtain ⟨noDigit, noPoint, noSmall, noCapital⟩ := ends
  have digits : ∀ d ∈ Nat.toDigits 10 number, d.isDigit = true :=
    fun d member => Nat.isDigit_of_mem_toDigits (by decide) (by decide) member
  have value : Nat.ofDigitChars 10 (Nat.toDigits 10 number) 0 = number :=
    Nat.ofDigitChars_toDigits (by decide) (by decide)
  have zero := @toDigits_eq_of_head_zero number
  cases shape : Nat.toDigits 10 number with
  | nil => exact absurd shape Nat.toDigits_ne_nil
  | cons first others =>
      rw [shape] at digits value zero
      have firstDigit := digits first List.mem_cons_self
      have noSign : first ≠ '-' := by
        rintro rfl
        cases firstDigit
      have stops : ¬ c.isDigit = true := by
        rw [noDigit]
        decide
      have whole : (first :: others ++ c :: rest).takeWhile Char.isDigit = first :: others := by
        rw [List.takeWhile_append_of_pos digits, List.takeWhile_cons_of_neg stops, List.append_nil]
      have behind : (first :: others ++ c :: rest).dropWhile Char.isDigit = c :: rest := by
        rw [List.dropWhile_append_of_pos digits, List.dropWhile_cons_of_neg stops]
      have taken : takeDigits 0 (first :: others) = (number, []) := by
        rw [takeDigits_of_lt (by rw [value]; exact small), value]
      have noLeadingZero : ¬ (first = '0' ∧ (first :: others).length ≠ 1) := by
        rintro ⟨rfl, longer⟩
        rw [zero rfl] at longer
        exact longer rfl
      have unsigned : readNumber (first :: others ++ c :: rest) =
          readUnsigned false (first :: others ++ c :: rest) := by
        unfold readNumber
        split
        · next tail same => exact absurd (List.cons.inj same).1 noSign
        · rfl
      rw [unsigned, List.cons_append, readUnsigned, ← List.cons_append, whole, behind,
        readFraction_of_ne noPoint]
      simp only [firstDigit, noLeadingZero, readExponent_of_ne noSmall noCapital, taken]
      rfl

end Worksheet.Json
