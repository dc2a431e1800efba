import Std.Data.HashSet
import Worksheet.Address.Basic

/-!
# Change notifications

The cells whose value or color has changed wait in a queue, each at the place
of its first change, until they are taken out all together.
-/

namespace Worksheet

/-- The cells that wait to be announced as changed, each of them once, oldest first. -/
structure Changes where
  queue : Array Address
  /-- The same cells, for quick look-up. -/
  pending : Std.HashSet Address
  distinct : queue.toList.Nodup
  mem_pending : ∀ cell, cell ∈ pending ↔ cell ∈ queue.toList

namespace Changes

/-- No cell is waiting. -/
def empty : Changes where
  queue := #[]
  pending := ∅
  distinct := List.nodup_nil
  mem_pending := by simp

/-- Add a cell to the queue, unless it is waiting already. -/
def announce (changes : Changes) (cell : Address) : Changes :=
  if waits : cell ∈ changes.pending then changes
  else
    { queue := changes.queue.push cell
      pending := changes.pending.insert cell
      distinct := by
        rw [changes.mem_pending] at waits
        rw [Array.toList_push, List.nodup_append]
        refine ⟨changes.distinct, List.pairwise_singleton _ _, ?_⟩
        intro other member last isLast same
        rw [List.mem_singleton.1 isLast] at same
        exact waits (same ▸ member)
      mem_pending := by
        intro other
        rw [Std.HashSet.mem_insert, changes.mem_pending, Array.toList_push, List.mem_append,
          List.mem_singleton, beq_iff_eq, or_comm, eq_comm] }

/-- Add the cells of a list, from left to right. -/
def announceAll (changes : Changes) (cells : List Address) : Changes :=
  cells.foldl announce changes

/-- The waiting cells, oldest first. -/
def toList (changes : Changes) : List Address :=
  changes.queue.toList

end Changes

end Worksheet
