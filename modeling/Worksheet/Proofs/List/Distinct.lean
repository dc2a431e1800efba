import Mathlib.Data.List.Induction
import Mathlib.Data.List.Nodup

/-!
# Distinct items of a list

The references of a formula and the lists of a reference graph hold each cell
once, at the place of its first appearance.  `List.eraseDups` brings a list into
this form.  The statements here say that it does so once and for all, and how
the form is built up when items come one at a time.
-/

namespace Worksheet.Distinct

universe u

variable {α : Type u} [BEq α] [LawfulBEq α]

/-- A list without repetition is left as it is. -/
theorem eraseDups_eq_self {items : List α} (distinct : items.Nodup) :
    items.eraseDups = items := by
  induction items with
  | nil => rfl
  | cons item items ih =>
      rw [List.nodup_cons] at distinct
      have others : items.filter (fun other => !other == item) = items := by
        rw [List.filter_eq_self]
        intro other member
        have apart : other ≠ item := by
          rintro rfl
          exact distinct.1 member
        simpa using apart
      rw [List.eraseDups_cons, others, ih distinct.2]

/-- What is left has no repetition. -/
theorem nodup_eraseDups (items : List α) : items.eraseDups.Nodup := by
  match items with
  | [] => exact List.nodup_nil
  | item :: items =>
      have shorter : (items.filter fun other => !other == item).length < items.length + 1 :=
        Nat.lt_succ_of_le (List.length_filter_le _ items)
      rw [List.eraseDups_cons, List.nodup_cons]
      refine ⟨?_, nodup_eraseDups _⟩
      intro member
      rw [List.mem_eraseDups, List.mem_filter] at member
      simp at member
termination_by items.length

theorem eraseDups_eraseDups (items : List α) : items.eraseDups.eraseDups = items.eraseDups :=
  eraseDups_eq_self (nodup_eraseDups items)

/-- An item at the end is kept if it is new. -/
theorem eraseDups_concat (items : List α) (item : α) :
    (items ++ [item]).eraseDups =
      if items.contains item then items.eraseDups else items.eraseDups ++ [item] := by
  rw [List.eraseDups_append]
  by_cases member : items.contains item
  · have nothing : [item].removeAll items = [] := by
      simp [List.removeAll, List.contains_iff_mem.1 member]
    rw [nothing, if_pos member, List.eraseDups_nil, List.append_nil]
  · have kept : [item].removeAll items = [item] := by
      have absent : item ∉ items := fun h => member (List.contains_iff_mem.2 h)
      simp [List.removeAll, absent]
    rw [kept, if_neg member]
    rfl

/-- Repeated items make no difference to what is found for the items. -/
theorem eraseDups_filterMap_eraseDups {β : Type u} [BEq β] [LawfulBEq β] (find : α → Option β)
    (items : List α) :
    (items.eraseDups.filterMap find).eraseDups = (items.filterMap find).eraseDups := by
  induction items using List.reverseRecOn with
  | nil => rfl
  | append_singleton items item ih =>
      rw [eraseDups_concat, List.filterMap_append]
      cases found : find item with
      | none =>
          split
          · simp [found, ih]
          · simp [found, ih]
      | some other =>
          have single : [item].filterMap find = [other] := by
            simp [found]
          rw [single, eraseDups_concat]
          split
          · next present =>
              have again : (items.filterMap find).contains other := by
                rw [List.contains_iff_mem, List.mem_filterMap]
                exact ⟨item, List.contains_iff_mem.1 present, found⟩
              rw [if_pos again, ih]
          · have same : (items.eraseDups.filterMap find).contains other =
                (items.filterMap find).contains other := by
              rw [Bool.eq_iff_iff, List.contains_iff_mem, List.contains_iff_mem,
                ← List.mem_eraseDups, ih, List.mem_eraseDups]
            rw [List.filterMap_append, single, eraseDups_concat, ih, same]

/-- The front of a list may be rid of its repetitions first. -/
theorem eraseDups_eraseDups_append (front back : List α) :
    (front.eraseDups ++ back).eraseDups = (front ++ back).eraseDups := by
  have same : back.removeAll front.eraseDups = back.removeAll front := by
    apply List.filter_congr
    intro item _
    rw [Bool.eq_iff_iff, Bool.not_eq_true', Bool.not_eq_true', List.elem_eq_contains,
      List.elem_eq_contains, ← Bool.not_eq_true, ← Bool.not_eq_true, List.contains_iff_mem,
      List.contains_iff_mem, List.mem_eraseDups]
  rw [List.eraseDups_append, List.eraseDups_append, eraseDups_eraseDups, same]

/-- The back of a list may be rid of its repetitions first. -/
theorem eraseDups_append_eraseDups (front back : List α) :
    (front ++ back.eraseDups).eraseDups = (front ++ back).eraseDups := by
  have filtered := eraseDups_filterMap_eraseDups
    (Option.guard fun item => !List.elem item front) back
  rw [List.filterMap_eq_filter] at filtered
  rw [List.eraseDups_append, List.eraseDups_append]
  exact congrArg (front.eraseDups ++ ·) filtered

end Worksheet.Distinct
