import Worksheet.Address.Basic

/-!
# Names of addresses

Letters of either case stand for the same column, so a name denotes the same
address when it is put into capitals.  A text without letters denotes none.
-/

namespace Worksheet

/-! ## Capitals -/

/-- Only the small letters are changed when a text is put into capitals. -/
theorem toUpper_eq_or_lower (c : Char) :
    c.toUpper = c ∨ (c.toNat ≤ 'z'.toNat ∧ 'a'.toNat ≤ c.toNat) := by
  by_cases lower : 'a'.val ≤ c.val ∧ c.val ≤ 'z'.val
  · right
    exact ⟨UInt32.le_iff_toNat_le.1 lower.2, UInt32.le_iff_toNat_le.1 lower.1⟩
  · left
    exact dif_neg lower

/-- What holds of every character that is its own capital and can be checked for
the small letters holds of all characters. -/
theorem forall_of_lower (property : Char → Char → Prop) (self : ∀ c, property c c)
    (lower : ∀ code, code ≤ 'z'.toNat → 'a'.toNat ≤ code →
      property (Char.ofNat code).toUpper (Char.ofNat code)) (c : Char) :
    property c.toUpper c := by
  rcases toUpper_eq_or_lower c with same | ⟨last, first⟩
  · rw [same]
    exact self c
  · have small := lower c.toNat last first
    rwa [Char.ofNat_toNat] at small

theorem isAlpha_toUpper (c : Char) : c.toUpper.isAlpha = c.isAlpha :=
  forall_of_lower (fun upper c => upper.isAlpha = c.isAlpha) (fun _ => rfl)
    (by decide) c

theorem isDigit_toUpper (c : Char) : c.toUpper.isDigit = c.isDigit :=
  forall_of_lower (fun upper c => upper.isDigit = c.isDigit) (fun _ => rfl)
    (by decide) c

theorem toUpper_of_isDigit {c : Char} (digit : c.isDigit = true) : c.toUpper = c := by
  rcases toUpper_eq_or_lower c with same | ⟨_, first⟩
  · exact same
  · have last : c.toNat ≤ '9'.toNat := (Char.isDigit_iff_toNat.1 digit).2
    exact absurd (Nat.le_trans first last) (by decide)

/-! ## Names -/

namespace Column

theorem digit?_toUpper (c : Char) : digit? c.toUpper = digit? c :=
  forall_of_lower (fun upper c => digit? upper = digit? c) (fun _ => rfl)
    (by decide) c

theorem numberFrom?_map_toUpper (number : Nat) (letters : List Char) :
    numberFrom? number (letters.map Char.toUpper) = numberFrom? number letters := by
  induction letters generalizing number with
  | nil => rfl
  | cons c letters ih => simp only [List.map_cons, numberFrom?, digit?_toUpper, ih]

theorem ofLetters?_map_toUpper (letters : List Char) :
    ofLetters? (letters.map Char.toUpper) = ofLetters? letters := by
  rw [ofLetters?, ofLetters?, numberFrom?_map_toUpper, List.isEmpty_map]

end Column

namespace Address

/-- A name denotes no address unless digits, and only digits, follow its letters. -/
theorem ofName?_eq_none (name : List Char)
    (bad : name.dropWhile Char.isAlpha = [] ∨ ¬ (name.dropWhile Char.isAlpha).all Char.isDigit) :
    ofName? name = none := by
  rw [ofName?]
  rcases bad with empty | other
  · simp [empty]
  · simp [other]

/-- A name without letters denotes no address. -/
theorem ofName?_of_noLetter {name : List Char} (plain : ∀ c ∈ name, c.isAlpha = false) :
    ofName? name = none := by
  have letters : name.takeWhile Char.isAlpha = [] := by
    cases name with
    | nil => rfl
    | cons c name => simp [plain c List.mem_cons_self]
  simp [ofName?, letters, Column.ofLetters?]

/-- Capitals denote the same address. -/
theorem ofName?_map_toUpper (name : List Char) :
    ofName? (name.map Char.toUpper) = ofName? name := by
  have alpha : Char.isAlpha ∘ Char.toUpper = Char.isAlpha := funext isAlpha_toUpper
  have digit : Char.isDigit ∘ Char.toUpper = Char.isDigit := funext isDigit_toUpper
  simp only [ofName?, List.takeWhile_map, List.dropWhile_map, List.all_map, alpha, digit,
    List.isEmpty_map, Column.ofLetters?_map_toUpper]
  by_cases digits : (name.dropWhile Char.isAlpha).all Char.isDigit
  · have same : (name.dropWhile Char.isAlpha).map Char.toUpper = name.dropWhile Char.isAlpha := by
      rw [List.all_eq_true] at digits
      refine (List.map_congr_left ?_).trans (List.map_id _)
      intro c member
      exact toUpper_of_isDigit (digits c member)
    rw [same]
  · simp [digits]

end Address

end Worksheet
