/-!
# Character properties given by ranges

A property of characters, such as being part of a word, is recorded as the
table of the code points that have it: closed ranges in increasing order that
do not meet.  A look-up halves the part of the table that can still hold the
code point, so it takes about ten steps for the largest table.
-/

namespace Worksheet.Text

/-- Do closed ranges begin at a code point or behind it, end no earlier than they begin,
and follow one another without meeting? -/
def ascend (least : Nat) : List (Nat × Nat) → Bool
  | [] => true
  | (first, last) :: ranges => least ≤ first && first ≤ last && ascend (last + 1) ranges

/-- A set of code points as closed ranges in increasing order that do not meet. -/
structure CharRanges where
  ranges : Array (Nat × Nat)
  ascending : ascend 0 ranges.toList = true

namespace CharRanges

/-- Search the ranges with indices from `low` up to, but excluding, `high`. -/
def containsBetween (table : CharRanges) (code low high : Nat) : Bool :=
  if low < high then
    let middle := (low + high) / 2
    match table.ranges[middle]? with
    | none => false
    | some (first, last) =>
        if code < first then table.containsBetween code low middle
        else if last < code then table.containsBetween code (middle + 1) high
        else true
  else false
termination_by high - low

/-- Does one of the ranges hold this character? -/
def contains (table : CharRanges) (c : Char) : Bool :=
  table.containsBetween c.toNat 0 table.ranges.size

end CharRanges

end Worksheet.Text
