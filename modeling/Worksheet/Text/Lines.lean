/-!
# Lines of a text

A text is cut at every line feed.  The pieces, joined by line feeds, give the
text back, so the text that ends in a line feed has an empty last line.
-/

namespace Worksheet.Text

/-- Cut at line feeds, with the lines found so far and the current line, both
reversed. -/
def linesFrom (done : List (List Char)) (current : List Char) : List Char → List (List Char)
  | [] => (current.reverse :: done).reverse
  | c :: rest =>
      if c = '\n' then linesFrom (current.reverse :: done) [] rest
      else linesFrom done (c :: current) rest

/-- The lines of a text, without their line feeds. -/
def lines (text : List Char) : List (List Char) :=
  linesFrom [] [] text

/-- Lines that are already cut off come first. -/
theorem linesFrom_eq_reverse_append (done : List (List Char)) (current text : List Char) :
    linesFrom done current text = done.reverse ++ linesFrom [] current text := by
  induction text generalizing done current with
  | nil => simp [linesFrom]
  | cons c rest ih =>
      by_cases h : c = '\n'
      · simp only [linesFrom, h, if_true]
        rw [ih, ih [current.reverse]]
        simp
      · simp only [linesFrom, h, if_false]
        exact ih done (c :: current)

/-- A line feed ends the lines before it and starts the lines after it. -/
theorem linesFrom_append (current before after : List Char) :
    linesFrom [] current (before ++ '\n' :: after) =
      linesFrom [] current before ++ lines after := by
  induction before generalizing current with
  | nil =>
      simp only [List.nil_append, linesFrom, if_true, lines]
      rw [linesFrom_eq_reverse_append]
  | cons c rest ih =>
      by_cases h : c = '\n'
      · simp only [List.cons_append, linesFrom, h, if_true]
        rw [linesFrom_eq_reverse_append, ih, linesFrom_eq_reverse_append [current.reverse] []]
        simp
      · simp only [List.cons_append, linesFrom, h, if_false]
        exact ih (c :: current)

/-- The lines of two texts with a line feed between them. -/
theorem lines_append_newline (before after : List Char) :
    lines (before ++ '\n' :: after) = lines before ++ lines after :=
  linesFrom_append [] before after

end Worksheet.Text
