import Mathlib.Data.List.Induction
import Mathlib.Data.Nat.Digits.Defs
import Worksheet.Proofs.Address.Column
import Worksheet.Proofs.Address.Name
import Worksheet.Proofs.Formula.Lexing

/-!
# Spellings of addresses

A name is read as two numbers, one in letters and one in digits, where each letter and each
digit counts according to its place.  Letters have no zero, so a column has only one spelling in
capitals.  A row has only one without zeros at its start.  So two names denote the same address
only if they differ in the case of letters and in such zeros, and the name that is written for
an address has capitals and no such zeros.
-/

namespace Worksheet

/-! ## Numbers by place -/

/-- The number that a text stands for when its characters are digits in some base. -/
def placeValue (base : Nat) (value : Char → Nat) (text : List Char) : Nat :=
  Nat.ofDigits base (text.map value).reverse

section

variable {base : Nat} {value : Char → Nat}

theorem placeValue_concat (text : List Char) (c : Char) :
    placeValue base value (text ++ [c]) = placeValue base value text * base + value c := by
  rw [placeValue, placeValue, List.map_append, List.reverse_append, List.map_singleton,
    List.reverse_singleton, List.singleton_append, Nat.ofDigits_cons, Nat.mul_comm, Nat.add_comm]

/-- More digits make a number larger. -/
theorem placeValue_le_append (positive : 0 < base) (text more : List Char) :
    placeValue base value text ≤ placeValue base value (text ++ more) := by
  rw [placeValue, placeValue, List.map_append, List.reverse_append, Nat.ofDigits_append]
  exact Nat.le_add_left_of_le (Nat.le_mul_of_pos_left _ (Nat.pow_pos positive))

end

/-- The place of a letter of either case in the alphabet, counted from one. -/
def letterValue (c : Char) : Nat :=
  "ABCDEFGHIJKLMNOPQRSTUVWXYZ".toList.idxOf c.toUpper + 1

/-- The value of a decimal digit. -/
def digitValue (c : Char) : Nat :=
  "0123456789".toList.idxOf c

/-! ## Columns -/

namespace Column

/-- The number that letters stand for in base 26. -/
def numberOf (letters : List Char) : Nat :=
  placeValue 26 letterValue letters

theorem toNat_le_of_isAlpha {c : Char} (alpha : c.isAlpha = true) : c.toNat ≤ 'z'.toNat := by
  rcases (Bool.or_eq_true _ _).mp alpha with upper | lower
  · exact (UInt32.le_iff_toNat_le.1 (of_decide_eq_true upper).2).trans (by decide)
  · exact UInt32.le_iff_toNat_le.1 (of_decide_eq_true ((Bool.and_eq_true _ _).mp lower).2)

/-- Letters are read by their place in the alphabet, and the capital is the letter of the
place. -/
theorem digit?_eq {c : Char} (alpha : c.isAlpha = true) :
    digit? c = some (letterValue c) ∧ letterValue c ≤ 26 ∧
      letter (letterValue c - 1) = c.toUpper := by
  have listed : ∀ code ≤ 'z'.toNat, (Char.ofNat code).isAlpha = true →
      digit? (Char.ofNat code) = some (letterValue (Char.ofNat code)) ∧
        letterValue (Char.ofNat code) ≤ 26 ∧
        letter (letterValue (Char.ofNat code) - 1) = (Char.ofNat code).toUpper := by
    decide +kernel
  have found := listed c.toNat (toNat_le_of_isAlpha alpha)
  rw [Char.ofNat_toNat] at found
  exact found alpha

theorem numberOf_concat (letters : List Char) (c : Char) :
    numberOf (letters ++ [c]) = numberOf letters * 26 + letterValue c :=
  placeValue_concat letters c

theorem numberOf_pos {letters : List Char} (nonempty : letters ≠ []) : 0 < numberOf letters := by
  rw [← List.dropLast_concat_getLast nonempty, numberOf_concat, letterValue]
  omega

/-- Letters are read as the number that they stand for behind those that have been read, if this
fits in 64 bits. -/
theorem numberFrom?_eq_some_iff {before letters : List Char} {number : Nat} :
    numberFrom? (numberOf before) letters = some number ↔
      (∀ c ∈ letters, c.isAlpha = true) ∧ numberOf (before ++ letters) = number ∧
        (letters = [] ∨ number < gridLimit) := by
  induction letters generalizing before with
  | nil => simp [numberFrom?]
  | cons c letters ih =>
      have whole : before ++ c :: letters = before ++ [c] ++ letters := by simp
      by_cases alpha : c.isAlpha = true
      · have grows : numberOf (before ++ [c]) ≤ numberOf (before ++ [c] ++ letters) :=
          placeValue_le_append (by decide) _ _
        rw [numberFrom?, (digit?_eq alpha).1, whole]
        dsimp only
        rw [← numberOf_concat]
        split
        · next fits =>
            rw [ih, List.forall_mem_cons]
            constructor
            · rintro ⟨others, rfl, rfl | small⟩
              · exact ⟨⟨alpha, others⟩, rfl, .inr (by rwa [List.append_nil])⟩
              · exact ⟨⟨alpha, others⟩, rfl, .inr small⟩
            · rintro ⟨⟨-, others⟩, rfl, empty | small⟩
              · cases empty
              · exact ⟨others, rfl, .inr small⟩
        · next large =>
            refine iff_of_false (Option.some_ne_none _).symm ?_
            rintro ⟨-, rfl, empty | small⟩
            · cases empty
            · exact large (Nat.lt_of_le_of_lt grows small)
      · have none : digit? c = none := if_neg alpha
        rw [numberFrom?, none]
        refine iff_of_false (Option.some_ne_none _).symm ?_
        rintro ⟨all, -⟩
        exact alpha (all c List.mem_cons_self)

/-- Letters name a column exactly if their number is one more and fits in 64 bits. -/
theorem ofLetters?_eq_some_iff {letters : List Char} {column : Nat} :
    ofLetters? letters = some column ↔
      letters ≠ [] ∧ (∀ c ∈ letters, c.isAlpha = true) ∧ numberOf letters = column + 1 ∧
        numberOf letters < gridLimit := by
  by_cases empty : letters = []
  · simp [ofLetters?, empty]
  · have positive := numberOf_pos empty
    have start : numberOf [] = 0 := rfl
    rw [ofLetters?, if_neg (by simpa using empty), Option.map_eq_some_iff]
    simp only [← start, numberFrom?_eq_some_iff, List.nil_append]
    constructor
    · rintro ⟨number, ⟨alpha, rfl, fits⟩, rfl⟩
      exact ⟨empty, alpha, by omega, fits.resolve_left empty⟩
    · rintro ⟨-, alpha, number, fits⟩
      exact ⟨_, ⟨alpha, rfl, .inr fits⟩, by omega⟩

/-- A column is written in capitals. -/
theorem lettersBefore_eq {letters : List Char} (nonempty : letters ≠ [])
    (alpha : ∀ c ∈ letters, c.isAlpha = true) {column : Nat}
    (number : numberOf letters = column + 1) (written : List Char) :
    lettersBefore column written = letters.map Char.toUpper ++ written := by
  induction letters using List.reverseRecOn generalizing column written with
  | nil => exact absurd rfl nonempty
  | append_singleton letters c ih =>
      obtain ⟨-, large, capital⟩ := digit?_eq (alpha c (by simp))
      have positive : 0 < letterValue c := Nat.succ_pos _
      rw [numberOf_concat] at number
      have last : column % 26 = letterValue c - 1 := by omega
      rw [lettersBefore, last, capital]
      by_cases single : letters = []
      · subst single
        rw [if_pos (by change 0 * 26 + _ = _ at number; omega)]
        rfl
      · have more := numberOf_pos single
        rw [if_neg (by omega), ih single (fun d member => alpha d (by simp [member])) (by omega)]
        simp

end Column

namespace Address

/-! ## Rows -/

/-- The number that decimal digits stand for. -/
def rowNumber (digits : List Char) : Nat :=
  placeValue 10 digitValue digits

theorem digitValue_eq {c : Char} (digit : c.isDigit = true) :
    c.toNat - '0'.toNat = digitValue c ∧ digitValue c < 10 ∧
      Nat.digitChar (digitValue c) = c ∧ (digitValue c = 0 → c = '0') := by
  have listed : ∀ code ≤ '9'.toNat, (Char.ofNat code).isDigit = true →
      (Char.ofNat code).toNat - '0'.toNat = digitValue (Char.ofNat code) ∧
        digitValue (Char.ofNat code) < 10 ∧
        Nat.digitChar (digitValue (Char.ofNat code)) = Char.ofNat code ∧
        (digitValue (Char.ofNat code) = 0 → Char.ofNat code = '0') := by
    decide +kernel
  have found := listed c.toNat (Char.isDigit_iff_toNat.1 digit).2
  rw [Char.ofNat_toNat] at found
  exact found digit

theorem ofDigitChars_eq_rowNumber {digits : List Char} (decimal : ∀ c ∈ digits, c.isDigit = true) :
    Nat.ofDigitChars 10 digits 0 = rowNumber digits := by
  induction digits using List.reverseRecOn with
  | nil => rfl
  | append_singleton digits c ih =>
      rw [Nat.ofDigitChars_append, ih fun d member => decimal d (by simp [member]),
        Nat.ofDigitChars_cons, Nat.ofDigitChars_nil, (digitValue_eq (decimal c (by simp))).1,
        rowNumber, rowNumber, placeValue_concat, Nat.mul_comm]

/-- Digits behind a number that is not zero are written as they are. -/
theorem toDigits_ofDigitChars_append {digits : List Char}
    (decimal : ∀ c ∈ digits, c.isDigit = true) {number : Nat} (positive : 0 < number) :
    Nat.toDigits 10 (Nat.ofDigitChars 10 digits number) = Nat.toDigits 10 number ++ digits := by
  induction digits generalizing number with
  | nil => simp
  | cons c digits ih =>
      obtain ⟨value, small, same, -⟩ := digitValue_eq (decimal c List.mem_cons_self)
      rw [Nat.ofDigitChars_cons, value,
        ih (fun d member => decimal d (by simp [member])) (by omega),
        ← Nat.toDigits_append_toDigits (by decide) positive small,
        Nat.toDigits_of_lt_base small, same]
      simp

/-- A number is written with its digits, without zeros at the start. -/
theorem toDigits_rowNumber {digits : List Char} (decimal : ∀ c ∈ digits, c.isDigit = true)
    (positive : 0 < rowNumber digits) :
    Nat.toDigits 10 (rowNumber digits) = digits.dropWhile (· == '0') := by
  rw [← ofDigitChars_eq_rowNumber decimal] at positive ⊢
  induction digits with
  | nil => cases positive
  | cons c digits ih =>
      have others : ∀ d ∈ digits, d.isDigit = true := fun d member => decimal d (by simp [member])
      obtain ⟨value, small, same, zero⟩ := digitValue_eq (decimal c List.mem_cons_self)
      rw [Nat.ofDigitChars_cons, value] at positive ⊢
      by_cases leading : c = '0'
      · subst leading
        exact ih others positive
      · have nonzero : 0 < digitValue c := Nat.pos_of_ne_zero fun none => leading (zero none)
        rw [toDigits_ofDigitChars_append others (by omega), Nat.mul_zero, Nat.zero_add,
          Nat.toDigits_of_lt_base small, same, List.dropWhile_cons_of_neg (by simpa using leading)]
        rfl

/-! ## Names -/

/-- A name is one or more letters and then one or more digits. -/
structure Spelled (name letters digits : List Char) : Prop where
  split : name = letters ++ digits
  someLetters : letters ≠ []
  someDigits : digits ≠ []
  alpha : ∀ c ∈ letters, c.isAlpha = true
  decimal : ∀ c ∈ digits, c.isDigit = true

/-- A name in capitals, without zeros at the start of its digits. -/
def plainName (name : List Char) : List Char :=
  (name.takeWhile Char.isAlpha).map Char.toUpper ++
    (name.dropWhile Char.isAlpha).dropWhile (· == '0')

variable {name letters digits : List Char} {address : Address}

/-- A name has only one letter part and only one digit part. -/
theorem Spelled.parts (spelled : Spelled name letters digits) :
    name.takeWhile Char.isAlpha = letters ∧ name.dropWhile Char.isAlpha = digits := by
  obtain ⟨rfl, -, nonempty, alpha, decimal⟩ := spelled
  cases digits with
  | nil => exact absurd rfl nonempty
  | cons c digits =>
      have stop : ¬ c.isAlpha = true := by
        rw [Token.isAlpha_of_isDigit (decimal c List.mem_cons_self)]
        exact Bool.false_ne_true
      rw [List.takeWhile_append_of_pos alpha, List.dropWhile_append_of_pos alpha,
        List.takeWhile_cons_of_neg stop, List.dropWhile_cons_of_neg stop, List.append_nil]
      exact ⟨rfl, rfl⟩

theorem Spelled.plainName_eq (spelled : Spelled name letters digits) :
    plainName name = letters.map Char.toUpper ++ digits.dropWhile (· == '0') := by
  rw [plainName, spelled.parts.1, spelled.parts.2]

/-- A name denotes an address exactly if it is letters and digits, its numbers fit in 64 bits,
and they are one more than the column and the row. -/
theorem ofName?_eq_some_iff :
    ofName? name = some address ↔ ∃ letters digits, Spelled name letters digits ∧
      Column.numberOf letters = address.column + 1 ∧ rowNumber digits = address.row + 1 ∧
      Column.numberOf letters < gridLimit ∧ rowNumber digits < gridLimit := by
  have whole := List.takeWhile_append_dropWhile (p := Char.isAlpha) (l := name)
  constructor
  · intro denotes
    rw [ofName?] at denotes
    dsimp only at denotes
    split at denotes
    · cases denotes
    · next shaped =>
        rw [Bool.or_eq_true, not_or, List.isEmpty_iff, Bool.not_eq_true', Bool.not_eq_false,
          List.all_eq_true] at shaped
        split at denotes
        · cases denotes
        · next column found =>
            rw [ofDigitChars_eq_rowNumber shaped.2] at denotes
            split at denotes
            · next bounds =>
                rw [Bool.and_eq_true, decide_eq_true_eq, decide_eq_true_eq] at bounds
                cases denotes
                obtain ⟨nonempty, alpha, number, fits⟩ := Column.ofLetters?_eq_some_iff.1 found
                refine ⟨_, _, ⟨whole.symm, nonempty, shaped.1, alpha, shaped.2⟩, number, ?_, fits,
                  bounds.2⟩
                dsimp only
                omega
            · cases denotes
  · rintro ⟨letters, digits, spelled, column, row, columnFits, rowFits⟩
    have found := Column.ofLetters?_eq_some_iff.2
      ⟨spelled.someLetters, spelled.alpha, column, columnFits⟩
    have shaped : (digits.isEmpty || !digits.all Char.isDigit) = false := by
      rw [Bool.or_eq_false_iff, List.isEmpty_eq_false_iff, Bool.not_eq_false', List.all_eq_true]
      exact ⟨spelled.someDigits, spelled.decimal⟩
    rw [ofName?, spelled.parts.1, spelled.parts.2, shaped, found,
      ofDigitChars_eq_rowNumber spelled.decimal]
    dsimp only
    rw [if_neg Bool.false_ne_true, if_pos, row]
    · rfl
    · rw [Bool.and_eq_true, decide_eq_true_eq, decide_eq_true_eq]
      exact ⟨by omega, rowFits⟩

/-- The name of an address is what is left of any of its spellings without the differences that
do not count. -/
theorem name_eq_plainName (denotes : ofName? name = some address) :
    address.name = plainName name := by
  obtain ⟨letters, digits, spelled, column, row, -, -⟩ := ofName?_eq_some_iff.1 denotes
  rw [spelled.plainName_eq, Address.name, Column.letters,
    Column.lettersBefore_eq spelled.someLetters spelled.alpha column, ← row,
    toDigits_rowNumber spelled.decimal (by omega), List.append_nil]

/-- The name of an address denotes it. -/
theorem ofName?_name (row : address.row + 1 < gridLimit) (column : address.column + 1 < gridLimit) :
    ofName? address.name = some address := by
  obtain ⟨someLetters, alpha, number, columnFits⟩ :=
    Column.ofLetters?_eq_some_iff.1 (Column.ofLetters?_letters column)
  have decimal : ∀ c ∈ Nat.toDigits 10 (address.row + 1), c.isDigit = true :=
    fun c member => Nat.isDigit_of_mem_toDigits (by decide) (by decide) member
  have value : rowNumber (Nat.toDigits 10 (address.row + 1)) = address.row + 1 := by
    rw [← ofDigitChars_eq_rowNumber decimal]
    exact Nat.ofDigitChars_toDigits (by decide) (by decide)
  rw [ofName?_eq_some_iff]
  exact ⟨_, _, ⟨rfl, someLetters, Nat.toDigits_ne_nil, alpha, decimal⟩, number, value, columnFits,
    by rwa [value]⟩

theorem ofName?_name_of_denotes (denotes : ofName? name = some address) :
    ofName? address.name = some address := by
  obtain ⟨letters, digits, spelled, column, row, columnFits, rowFits⟩ :=
    ofName?_eq_some_iff.1 denotes
  exact ofName?_name (by omega) (by omega)

theorem gridLimit_eq : gridLimit = 2 ^ 64 - 1 + 1 := by
  decide

/-- A name is accepted exactly if it is letters and digits, both numbers fit in 64 bits, and the
digits are not all zero. -/
theorem isSome_ofName?_iff :
    (ofName? name).isSome = true ↔ ∃ letters digits, Spelled name letters digits ∧
      Column.numberOf letters ≤ 2 ^ 64 - 1 ∧
      1 ≤ rowNumber digits ∧ rowNumber digits ≤ 2 ^ 64 - 1 := by
  have limit := gridLimit_eq
  rw [Option.isSome_iff_exists]
  constructor
  · rintro ⟨address, denotes⟩
    obtain ⟨letters, digits, spelled, column, row, columnFits, rowFits⟩ :=
      ofName?_eq_some_iff.1 denotes
    exact ⟨letters, digits, spelled, by omega, by omega, by omega⟩
  · rintro ⟨letters, digits, spelled, columnFits, positive, rowFits⟩
    have column := Column.numberOf_pos spelled.someLetters
    refine ⟨⟨rowNumber digits - 1, Column.numberOf letters - 1⟩, ofName?_eq_some_iff.2 ?_⟩
    exact ⟨letters, digits, spelled, by dsimp only; omega, by dsimp only; omega, by omega,
      by omega⟩

/-- The parts of a name give the column and the row, and what has been read of them at any time
fits in 64 bits too. -/
theorem Spelled.numbers (spelled : Spelled name letters digits)
    (denotes : ofName? name = some address) :
    address.column + 1 = Column.numberOf letters ∧ address.row + 1 = rowNumber digits ∧
      (∀ part, part <+: letters → Column.numberOf part ≤ 2 ^ 64 - 1) ∧
      ∀ part, part <+: digits → rowNumber part ≤ 2 ^ 64 - 1 := by
  have limit := gridLimit_eq
  obtain ⟨letters', digits', spelled', column, row, columnFits, rowFits⟩ :=
    ofName?_eq_some_iff.1 denotes
  obtain rfl : letters' = letters := spelled'.parts.1.symm.trans spelled.parts.1
  obtain rfl : digits' = digits := spelled'.parts.2.symm.trans spelled.parts.2
  refine ⟨column.symm, row.symm, ?_, ?_⟩
  · rintro part ⟨more, rfl⟩
    have grows : Column.numberOf part ≤ Column.numberOf (part ++ more) :=
      placeValue_le_append (by decide) part more
    omega
  · rintro part ⟨more, rfl⟩
    have grows : rowNumber part ≤ rowNumber (part ++ more) :=
      placeValue_le_append (by decide) part more
    omega

/-- Two names denote the same address exactly if they are the same in capitals and without zeros
at the start of their digits. -/
theorem ofName?_eq_ofName?_iff {first second : List Char}
    (accepted : (ofName? first).isSome = true) (accepted' : (ofName? second).isSome = true) :
    ofName? first = ofName? second ↔ plainName first = plainName second := by
  obtain ⟨address, denotes⟩ := Option.isSome_iff_exists.1 accepted
  obtain ⟨address', denotes'⟩ := Option.isSome_iff_exists.1 accepted'
  rw [denotes, denotes', ← name_eq_plainName denotes, ← name_eq_plainName denotes']
  constructor
  · rintro ⟨⟩
    rfl
  · intro names
    rw [← ofName?_name_of_denotes denotes, ← ofName?_name_of_denotes denotes', names]

/-- Names and addresses are an exact codec.  Each address below the limits is read back from its
name.  A name denotes an address exactly if it is letters and digits, the number of the letters is
at most `2 ^ 64 - 1`, and that of the digits is from `1` to `2 ^ 64 - 1`.  These numbers are one
more than the column and the row, and neither they nor what has been read of them at any time
exceed 64 bits.  The name of the address has the letters in capitals and no zeros before the other
digits, so two names denote the same address exactly if they agree in this. -/
theorem ofString?_exact :
    (∀ address : Address, address.row < 2 ^ 64 - 1 → address.column < 2 ^ 64 - 1 →
      ofString? address.toString = some address) ∧
    (∀ name : String, (ofString? name).isSome = true ↔
      ∃ letters digits, Spelled name.toList letters digits ∧
        Column.numberOf letters ≤ 2 ^ 64 - 1 ∧
        1 ≤ rowNumber digits ∧ rowNumber digits ≤ 2 ^ 64 - 1) ∧
    (∀ (name : String) (address : Address) (letters digits : List Char),
      ofString? name = some address → Spelled name.toList letters digits →
        address.column + 1 = Column.numberOf letters ∧ address.row + 1 = rowNumber digits ∧
        address.toString =
          String.ofList (letters.map Char.toUpper ++ digits.dropWhile (· == '0')) ∧
        (∀ part, part <+: letters → Column.numberOf part ≤ 2 ^ 64 - 1) ∧
        ∀ part, part <+: digits → rowNumber part ≤ 2 ^ 64 - 1) ∧
    ∀ first second : String, (ofString? first).isSome = true → (ofString? second).isSome = true →
      (ofString? first = ofString? second ↔
        plainName first.toList = plainName second.toList) := by
  refine ⟨?_, fun name => isSome_ofName?_iff, ?_, fun first second => ofName?_eq_ofName?_iff⟩
  · intro address row column
    have limit := gridLimit_eq
    rw [ofString?, Address.toString, String.toList_ofList]
    exact ofName?_name (by omega) (by omega)
  · intro name address letters digits denotes spelled
    obtain ⟨column, row, lettersFit, digitsFit⟩ := spelled.numbers denotes
    refine ⟨column, row, ?_, lettersFit, digitsFit⟩
    rw [Address.toString, name_eq_plainName denotes, spelled.plainName_eq]

/-- A name in letters of both cases with leading zeros, and the last cell of the largest grid, are
examples. -/
theorem ofString?_exact_of_leading_zeros :
    ofString? "aA007" = some ⟨6, 26⟩ ∧ Spelled "aA007".toList ['a', 'A'] ['0', '0', '7'] ∧
      Address.toString ⟨6, 26⟩ = "AA7" ∧
      ofString? (Address.toString ⟨2 ^ 64 - 2, 2 ^ 64 - 2⟩) =
        some ⟨2 ^ 64 - 2, 2 ^ 64 - 2⟩ := by
  have spelled : Spelled "aA007".toList ['a', 'A'] ['0', '0', '7'] :=
    ⟨by decide, by decide, by decide, List.all_eq_true.1 (by decide),
      List.all_eq_true.1 (by decide)⟩
  have denotes : ofString? "aA007" = some ⟨6, 26⟩ := by decide +kernel
  obtain ⟨back, -, written, -⟩ := ofString?_exact
  refine ⟨denotes, spelled, ?_, back _ (by decide) (by decide)⟩
  exact (written _ _ _ _ denotes spelled).2.2.1.trans (by decide)

end Address

end Worksheet
