import Worksheet.Text.CharRanges

/-!
# Looking up a character

A look-up in a table of ranges halves the part of the table that is searched.  The ranges
increase and do not meet, so a code point that lies before or behind the middle range lies
in no range of the other half.  Hence a look-up finds exactly the code points that some
range of the table holds.
-/

namespace Worksheet.Text

theorem bounds_of_ascend {least : Nat} {ranges : List (Nat × Nat)}
    (ascending : ascend least ranges = true) :
    ∀ range ∈ ranges, least ≤ range.1 ∧ range.1 ≤ range.2 := by
  induction ranges generalizing least with
  | nil => simp
  | cons first ranges ih =>
      rw [ascend, Bool.and_eq_true, Bool.and_eq_true, decide_eq_true_iff,
        decide_eq_true_iff] at ascending
      intro range member
      rcases List.mem_cons.1 member with rfl | later
      · exact ascending.1
      · have bounds := ih ascending.2 range later
        have behind : least ≤ first.2 := Nat.le_trans ascending.1.1 ascending.1.2
        exact ⟨Nat.le_trans behind (Nat.le_of_succ_le bounds.1), bounds.2⟩

/-- Ranges that ascend do not meet. -/
theorem pairwise_of_ascend {least : Nat} {ranges : List (Nat × Nat)}
    (ascending : ascend least ranges = true) :
    ranges.Pairwise fun before after => before.2 < after.1 := by
  induction ranges generalizing least with
  | nil => exact List.Pairwise.nil
  | cons first ranges ih =>
      rw [ascend, Bool.and_eq_true] at ascending
      rw [List.pairwise_cons]
      constructor
      · intro range later
        exact (bounds_of_ascend ascending.2 range later).1
      · exact ih ascending.2

namespace CharRanges

/-- Does the range with an index hold a code point? -/
def HoldsAt (table : CharRanges) (code index : Nat) : Prop :=
  ∃ range, table.ranges[index]? = some range ∧ range.1 ≤ code ∧ code ≤ range.2

variable {table : CharRanges} {code index middle : Nat} {range : Nat × Nat}

theorem first_le_last (atIndex : table.ranges[index]? = some range) : range.1 ≤ range.2 :=
  (bounds_of_ascend table.ascending range
    (Array.mem_toList_iff.2 (Array.mem_of_getElem? atIndex))).2

/-- A range ends before the ranges behind it begin. -/
theorem lt_of_index_lt {before after : Nat × Nat} {i j : Nat} (earlier : i < j)
    (atBefore : table.ranges[i]? = some before) (atAfter : table.ranges[j]? = some after) :
    before.2 < after.1 := by
  rw [Array.getElem?_eq_some_iff] at atBefore atAfter
  rcases atBefore with ⟨beforeBound, rfl⟩
  rcases atAfter with ⟨afterBound, rfl⟩
  have apart := pairwise_of_ascend table.ascending
  rw [List.pairwise_iff_getElem] at apart
  exact apart i j (by simpa using beforeBound) (by simpa using afterBound) earlier

/-- A code point before the middle range is in no range behind it, nor in the middle one. -/
theorem HoldsAt.lt_of_lt_first (holds : table.HoldsAt code index)
    (atMiddle : table.ranges[middle]? = some range) (before : code < range.1) :
    index < middle := by
  rcases holds with ⟨other, atIndex, begins, _⟩
  rw [← Nat.not_le]
  intro behind
  rcases Nat.eq_or_lt_of_le behind with rfl | behind
  · rw [atMiddle] at atIndex
    cases atIndex
    exact Nat.not_lt.2 begins before
  · have apart := lt_of_index_lt behind atMiddle atIndex
    have ordered := first_le_last atMiddle
    exact Nat.not_lt.2 (Nat.le_trans ordered (Nat.le_of_lt (Nat.lt_of_lt_of_le apart begins)))
      before

/-- A code point behind the middle range is in no range before it, nor in the middle one. -/
theorem HoldsAt.lt_of_last_lt (holds : table.HoldsAt code index)
    (atMiddle : table.ranges[middle]? = some range) (behind : range.2 < code) :
    middle < index := by
  rcases holds with ⟨other, atIndex, _, ends⟩
  rw [← Nat.not_le]
  intro before
  rcases Nat.eq_or_lt_of_le before with rfl | before
  · rw [atMiddle] at atIndex
    cases atIndex
    exact Nat.not_lt.2 ends behind
  · have apart := lt_of_index_lt before atIndex atMiddle
    have ordered := first_le_last atMiddle
    exact Nat.not_lt.2 (Nat.le_trans ends (Nat.le_of_lt (Nat.lt_of_lt_of_le apart ordered))) behind

/-- The search of a part of the table finds the code points that a range of this part
holds. -/
theorem containsBetween_iff (table : CharRanges) (code low high : Nat)
    (bound : high ≤ table.ranges.size) :
    table.containsBetween code low high = true ↔
      ∃ index, low ≤ index ∧ index < high ∧ table.HoldsAt code index := by
  fun_induction table.containsBetween code low high with
  | case1 low high nonempty middle missing =>
      have inside : middle < table.ranges.size := by omega
      rw [Array.getElem?_eq_none_iff] at missing
      exact absurd inside (Nat.not_lt.2 missing)
  | case2 low high nonempty middle first last atMiddle before ih =>
      rw [ih (by omega)]
      constructor
      · rintro ⟨index, lower, upper, holds⟩
        exact ⟨index, lower, by omega, holds⟩
      · rintro ⟨index, lower, _, holds⟩
        exact ⟨index, lower, holds.lt_of_lt_first atMiddle before, holds⟩
  | case3 low high nonempty middle first last atMiddle _ behind ih =>
      rw [ih bound]
      constructor
      · rintro ⟨index, lower, upper, holds⟩
        exact ⟨index, by omega, upper, holds⟩
      · rintro ⟨index, _, upper, holds⟩
        exact ⟨index, holds.lt_of_last_lt atMiddle behind, upper, holds⟩
  | case4 low high nonempty middle first last atMiddle notBefore notBehind =>
      have within : first ≤ code ∧ code ≤ last := ⟨Nat.not_lt.1 notBefore, Nat.not_lt.1 notBehind⟩
      exact iff_of_true rfl ⟨middle, by omega, by omega, _, atMiddle, within⟩
  | case5 low high empty =>
      refine iff_of_false Bool.false_ne_true ?_
      rintro ⟨index, lower, upper, _⟩
      omega

/-- A table contains the characters whose code points its ranges hold. -/
theorem contains_iff (table : CharRanges) (c : Char) :
    table.contains c = true ↔ ∃ range ∈ table.ranges, range.1 ≤ c.toNat ∧ c.toNat ≤ range.2 := by
  rw [contains, containsBetween_iff table _ _ _ (Nat.le_refl _)]
  constructor
  · rintro ⟨index, _, _, range, atIndex, within⟩
    exact ⟨range, Array.mem_of_getElem? atIndex, within⟩
  · rintro ⟨range, member, within⟩
    rcases Array.mem_iff_getElem?.1 member with ⟨index, atIndex⟩
    have bound := (Array.getElem?_eq_some_iff.1 atIndex).1
    exact ⟨index, Nat.zero_le _, bound, range, atIndex, within⟩

end CharRanges

end Worksheet.Text
