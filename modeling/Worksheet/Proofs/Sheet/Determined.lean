import Mathlib.Data.Finite.Prod
import Worksheet.Proofs.Sheet.Showing

/-!
# Values depend on texts alone

Two consistent sheets with the same texts have the same references and the same
reference cycles, so the same cells show the same markers in both.  The other
formula cells show the values of their formulas, and these agree because the
values that they are computed from agree.  The induction goes along references,
which come to an end outside of the cycles.
-/

namespace Worksheet.Sheet

variable {first second : Sheet}

/-- A sheet has finitely many cells. -/
theorem finite_contains (sheet : Sheet) : {address | sheet.contains address = true}.Finite := by
  have rectangle := ((Set.finite_lt_nat sheet.grid.rows).prod
    (Set.finite_lt_nat sheet.grid.columns)).image fun place => Address.mk place.1 place.2
  apply rectangle.subset
  intro address inside
  simp only [Set.mem_ofPred_eq, contains, Grid.contains, Bool.and_eq_true,
    decide_eq_true_eq] at inside
  exact ⟨(address.row, address.column), inside, rfl⟩

/-- The same text, value and error are found in two sheets. -/
def ShowsAlike (first second : Sheet) (address : Address) : Prop :=
  (first.cell? address).map (fun cell => (cell.text, cell.value, cell.error)) =
    (second.cell? address).map fun cell => (cell.text, cell.value, cell.error)

theorem ShowsAlike.readsAlike {address : Address} (alike : ShowsAlike first second address) :
    ReadsAlike first second address := by
  have contents := congrArg (Option.map fun shown => (shown.1, shown.2.1)) alike
  rw [ReadsAlike]
  simpa only [Option.map_map, Function.comp_def] using contents

/-- A formula cell shows the same in two consistent sheets if the cells that it reads
do, apart from itself and unless it is on a cycle. -/
theorem Consistent.alike_of_formula (firstConsistent : first.Consistent)
    (secondConsistent : second.Consistent) (reads : second.Reads = first.Reads)
    {address : Address} {here there : Cell} {body : List Char}
    (inFirst : first.cell? address = some here) (inSecond : second.cell? address = some there)
    (formula : here.formula? = some body) (formula' : there.formula? = some body)
    (tracked : References.Tracked body)
    (alike : ¬ OnCycle first.Reads address → ∀ referenced, first.Reads address referenced →
      referenced ≠ address → ReadsAlike first second referenced) :
    here.value = there.value ∧ here.error = there.error := by
  by_cases own : address ∈ References.inText body
  · have shows := firstConsistent.shows_selfReference inFirst formula own
    have shows' := secondConsistent.shows_selfReference inSecond formula' own
    exact ⟨shows.1.trans shows'.1.symm, shows.2.trans shows'.2.symm⟩
  · by_cases circular : OnCycle first.Reads address
    · have circular' : OnCycle second.Reads address := by
        rw [reads]
        exact circular
      have shows := firstConsistent.shows_circularReference inFirst formula own circular
      have shows' := secondConsistent.shows_circularReference inSecond formula' own circular'
      exact ⟨shows.1.trans shows'.1.symm, shows.2.trans shows'.2.symm⟩
    · have shows :=
        firstConsistent.shows_computeFormula inFirst formula tracked own circular
      have shows' := secondConsistent.shows_computeFormula inSecond formula' tracked own (by
        rw [reads]
        exact circular)
      have same : first.computeFormula address body = second.computeFormula address body := by
        refine computeFormula_congr
          (firstConsistent.operators.trans secondConsistent.operators.symm) ?_
        intro read parsed name member referenced denotes
        rw [firstConsistent.operators] at parsed
        have names := tracked read parsed name member referenced denotes
        refine alike circular referenced ?_ ?_
        · rw [Reads, references_of_formula inFirst formula]
          exact names
        · rintro rfl
          exact own names
      rw [same] at shows
      exact shows.unique shows'

/-- Consistent sheets with the same texts show the same, if their texts are tracked. -/
theorem Consistent.showsAlike (firstConsistent : first.Consistent)
    (secondConsistent : second.Consistent)
    (texts : ∀ address,
      (first.cell? address).map Cell.text = (second.cell? address).map Cell.text)
    (tracked : ∀ address cell body, first.cell? address = some cell →
      cell.formula? = some body → References.Tracked body) (address : Address) :
    ShowsAlike first second address := by
  have reads : second.Reads = first.Reads := by
    funext reader referenced
    rw [Reads, Reads, references_congr (texts reader)]
  have descends := OnCycle.wellFounded first.Reads (finite_contains first)
    fun reader referenced named => contains_of_reads named
  induction address using descends.induction with
  | _ address ih =>
      rcases none_or_some_of_map_eq (texts address) with ⟨outside, outside'⟩ | cells
      · rw [ShowsAlike, outside, outside']
      · obtain ⟨here, there, inFirst, inSecond, text⟩ := cells
        have same : here.value = there.value ∧ here.error = there.error := by
          cases formula : here.formula? with
          | none =>
              have formula' : there.formula? = none := by
                rw [Cell.formula?, ← text]
                exact formula
              have shows := firstConsistent.shows_text inFirst formula
              have shows' := secondConsistent.shows_text inSecond formula'
              rw [← text] at shows'
              exact ⟨shows.1.trans shows'.1.symm, shows.2.trans shows'.2.symm⟩
          | some body =>
              have formula' : there.formula? = some body := by
                rw [Cell.formula?, ← text]
                exact formula
              refine firstConsistent.alike_of_formula secondConsistent reads inFirst inSecond
                formula formula' (tracked address here body inFirst formula) ?_
              intro alone referenced named apart
              exact (ih referenced ⟨named, apart, alone⟩).readsAlike
        rw [ShowsAlike, inFirst, inSecond, Option.map_some, Option.map_some, text, same.1,
          same.2]

/-- If two sheets have the same cells with the same texts, they have the same texts
everywhere. -/
theorem texts_eq_of_dimensions_eq (dimensions : first.dimensions = second.dimensions)
    (texts : ∀ address here there, first.cell? address = some here →
      second.cell? address = some there → here.text = there.text) (address : Address) :
    (first.cell? address).map Cell.text = (second.cell? address).map Cell.text := by
  have inside := contains_congr dimensions address
  cases inFirst : first.cell? address with
  | none =>
      cases inSecond : second.cell? address with
      | none => rfl
      | some there =>
          rw [contains_of_cell? inSecond] at inside
          obtain ⟨here, present⟩ := exists_cell?_of_contains inside
          rw [inFirst] at present
          cases present
  | some here =>
      rw [contains_of_cell? inFirst] at inside
      obtain ⟨there, inSecond⟩ := exists_cell?_of_contains inside.symm
      rw [inSecond, Option.map_some, Option.map_some, texts address here there inFirst inSecond]

/-- Two reached sheets of the same dimensions with the same texts show the same values
and errors, whatever has led to them. -/
theorem value_eq_of_texts_eq (firstReached : first.Reached) (secondReached : second.Reached)
    (dimensions : first.dimensions = second.dimensions)
    (texts : ∀ address here there, first.cell? address = some here →
      second.cell? address = some there → here.text = there.text)
    (tracked : ∀ address cell body, first.cell? address = some cell →
      cell.formula? = some body → References.Tracked body) :
    ∀ address here there, first.cell? address = some here →
      second.cell? address = some there →
        here.value = there.value ∧ here.error = there.error := by
  intro address here there inFirst inSecond
  have allTexts := texts_eq_of_dimensions_eq dimensions texts
  have alike := firstReached.consistent.showsAlike secondReached.consistent allTexts tracked
    address
  rw [ShowsAlike, inFirst, inSecond, Option.map_some, Option.map_some] at alike
  have rest := (Prod.mk.inj (Option.some.inj alike)).2
  exact Prod.mk.inj rest

/-- A formula and what it reads, entered in either order, are an example. -/
theorem value_eq_of_either_order :
    ∃ first second,
      first = ((blank 1 2).perform (.setText ⟨0, 0⟩ "5")).perform (.setText ⟨0, 1⟩ "=A1*2") ∧
      second = ((blank 1 2).perform (.setText ⟨0, 1⟩ "=A1*2")).perform (.setText ⟨0, 0⟩ "5") ∧
      Reached first ∧ Reached second ∧ first.dimensions = second.dimensions ∧
      ∀ address here there, first.cell? address = some here →
        second.cell? address = some there →
          here.value = there.value ∧ here.error = there.error := by
  have start : (blank 1 2).Reached := reached_blank (by decide)
  have firstReached :=
    (start.performed (.setText ⟨0, 0⟩ "5")).performed (.setText ⟨0, 1⟩ "=A1*2")
  have secondReached :=
    (start.performed (.setText ⟨0, 1⟩ "=A1*2")).performed (.setText ⟨0, 0⟩ "5")
  have dimensions := (((start.performed (.setText ⟨0, 0⟩ "5")).dimensions_setText
    ⟨0, 1⟩ "=A1*2").trans (start.dimensions_setText ⟨0, 0⟩ "5")).trans
      (((start.performed (.setText ⟨0, 1⟩ "=A1*2")).dimensions_setText
        ⟨0, 0⟩ "5").trans (start.dimensions_setText ⟨0, 1⟩ "=A1*2")).symm
  have apart : (⟨0, 0⟩ : Address) ≠ ⟨0, 1⟩ := by decide
  have firstTexts := start.twoTexts apart rfl rfl "5" "=A1*2"
  have secondTexts := (start.twoTexts apart.symm rfl rfl "=A1*2" "5").swap
  have plain : TrackedText "5" := .of_apart (by decide +kernel)
  have product : TrackedText "=A1*2" := .of_apart (by decide +kernel)
  refine ⟨_, _, rfl, rfl, firstReached, secondReached, dimensions,
    value_eq_of_texts_eq firstReached secondReached dimensions ?_ ?_⟩
  · intro address here there inFirst inSecond
    exact firstTexts.text_eq secondTexts inFirst inSecond
  · exact firstTexts.tracked plain product

end Worksheet.Sheet
