import Worksheet.Proofs.Formula.Naming
import Worksheet.Proofs.Sheet.Recalculating

/-!
# Sheets with two texts

If only two cells of a sheet have a text, no others read anything.  So the references of the
two texts tell what the reference cycles of the sheet are.
-/

namespace Worksheet.Sheet

/-- If a text is a formula, the formula is tracked. -/
def TrackedText (text : String) : Prop :=
  ∀ body, Cell.formulaOf? text.toList = some body → References.Tracked body

theorem TrackedText.of_apart {text : String}
    (apart : ∀ body ∈ Cell.formulaOf? text.toList, ∀ lexeme ∈ Lexeme.inText false body,
      lexeme.cell?.isSome = true → lexeme.isApart = true) : TrackedText text :=
  fun body formula => References.tracked_of_apart (apart body formula)

/-- Two cells of a sheet hold these texts, and its other cells have none. -/
structure TwoTexts (sheet : Sheet) (first second : Address) (text text' : String) : Prop where
  text_first : (sheet.cell? first).map Cell.text = some text
  text_second : (sheet.cell? second).map Cell.text = some text'
  text_others : ∀ address cell, sheet.cell? address = some cell →
    address ≠ first → address ≠ second → cell.text = ""

/-- Two cells of a blank sheet are given texts. -/
theorem Reached.twoTexts {rows columns : Nat} (start : (blank rows columns).Reached)
    {first second : Address} (apart : first ≠ second)
    (firstInside : (blank rows columns).contains first = true)
    (secondInside : (blank rows columns).contains second = true) (text text' : String) :
    TwoTexts (((blank rows columns).perform (.setText first text)).perform
      (.setText second text')) first second text text' := by
  have texts := start.text_setText_setText first second firstInside secondInside text text'
  constructor
  case text_first => rw [texts, if_neg apart, if_pos rfl]
  case text_second => rw [texts, if_pos rfl]
  case text_others =>
    intro address cell present notFirst notSecond
    have found := texts address
    rw [present, Option.map_some, if_neg notSecond, if_neg notFirst, text_blank] at found
    split at found
    · exact Option.some.inj found
    · cases found

namespace TwoTexts

variable {sheet other : Sheet} {first second address referenced : Address}
  {text text' : String} {cell : Cell}

theorem swap (two : TwoTexts sheet first second text text') :
    TwoTexts sheet second first text' text :=
  ⟨two.text_second, two.text_first, fun address cell present notSecond notFirst =>
    two.text_others address cell present notFirst notSecond⟩

theorem exists_first (two : TwoTexts sheet first second text text') :
    ∃ cell, sheet.cell? first = some cell ∧ cell.text = text :=
  Option.map_eq_some_iff.1 two.text_first

theorem text_cases (two : TwoTexts sheet first second text text')
    (present : sheet.cell? address = some cell) :
    (address = first ∧ cell.text = text) ∨ (address = second ∧ cell.text = text') ∨
      (address ≠ first ∧ address ≠ second ∧ cell.text = "") := by
  by_cases isFirst : address = first
  · subst isFirst
    have found := two.text_first
    rw [present] at found
    exact .inl ⟨rfl, Option.some.inj found⟩
  · by_cases isSecond : address = second
    · subst isSecond
      have found := two.text_second
      rw [present] at found
      exact .inr (.inl ⟨rfl, Option.some.inj found⟩)
    · exact .inr (.inr ⟨isFirst, isSecond, two.text_others address cell present isFirst isSecond⟩)

/-- Sheets with the same two texts have the same texts everywhere. -/
theorem text_eq (two : TwoTexts sheet first second text text')
    (two' : TwoTexts other first second text text') {cell' : Cell}
    (present : sheet.cell? address = some cell) (present' : other.cell? address = some cell') :
    cell.text = cell'.text := by
  rcases two.text_cases present with ⟨rfl, here⟩ | ⟨rfl, here⟩ | ⟨notFirst, notSecond, here⟩
  · rw [here]
    exact Option.some.inj (two'.text_first.symm.trans (congrArg (Option.map Cell.text) present'))
  · rw [here]
    exact Option.some.inj (two'.text_second.symm.trans (congrArg (Option.map Cell.text) present'))
  · rw [here, two'.text_others address cell' present' notFirst notSecond]

theorem tracked (two : TwoTexts sheet first second text text') (firstText : TrackedText text)
    (secondText : TrackedText text') (address : Address) (cell : Cell) (body : List Char)
    (present : sheet.cell? address = some cell) (formula : cell.formula? = some body) :
    References.Tracked body := by
  rw [Cell.formula?] at formula
  rcases two.text_cases present with ⟨_, same⟩ | ⟨_, same⟩ | ⟨_, _, same⟩
  · rw [same] at formula
    exact firstText body formula
  · rw [same] at formula
    exact secondText body formula
  · rw [same] at formula
    cases formula

/-! ## What is read -/

/-- The first cell reads what its text names. -/
theorem reads_first_iff (two : TwoTexts sheet first second text text') :
    sheet.Reads first referenced ↔ referenced ∈ Cell.referencesOf text := by
  rcases two.exists_first with ⟨cell, present, same⟩
  rw [Reads, references_of_cell? present, same]

/-- Only the two cells read anything. -/
theorem eq_or_eq_of_reads (two : TwoTexts sheet first second text text')
    (reads : sheet.Reads address referenced) : address = first ∨ address = second := by
  rcases exists_cell?_of_contains (contains_of_reads reads) with ⟨cell, present⟩
  rcases two.text_cases present with ⟨isFirst, _⟩ | ⟨isSecond, _⟩ | ⟨_, _, empty⟩
  · exact .inl isFirst
  · exact .inr isSecond
  · rw [Reads, references_of_cell? present, empty] at reads
    exact absurd reads List.not_mem_nil

/-- If each of the texts names the cell of the other one, the cells are on a cycle. -/
theorem onCycle_first (two : TwoTexts sheet first second text text') (apart : first ≠ second)
    (there : second ∈ Cell.referencesOf text) (back : first ∈ Cell.referencesOf text') :
    OnCycle sheet.Reads first :=
  OnCycle.of_mutual apart (two.reads_first_iff.2 there) (two.swap.reads_first_iff.2 back)

/-- If one of the texts names no cell, no cell is on a cycle. -/
theorem not_onCycle (two : TwoTexts sheet first second text text')
    (nothing : Cell.referencesOf text = []) (address : Address) :
    ¬ OnCycle sheet.Reads address := by
  have reader : ∀ {address referenced}, sheet.Reads address referenced → address = second := by
    intro address referenced reads
    rcases two.eq_or_eq_of_reads reads with rfl | isSecond
    · rw [two.reads_first_iff, nothing] at reads
      exact absurd reads List.not_mem_nil
    · exact isSecond
  intro circular
  -- Of two cells that follow each other on a cycle both would have to be the second cell.
  rcases circular.exists_next with ⟨next, apart, reads, again⟩
  rcases again.exists_next with ⟨_, _, onward, _⟩
  exact apart ((reader onward).trans (reader reads).symm)

end TwoTexts

end Worksheet.Sheet
