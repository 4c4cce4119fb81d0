import StatusBoard.Log.Body

/-!
The end of the log.

The rows are collected from the newest line back, each line from its last row, until there are
enough.  What comes out is the end of all rows.
-/

namespace StatusBoard.Log.Body

/-- All rows of the log wrapped to a width, in reading order. -/
def wrapped (b : Body) (width : Nat) : List Line :=
  b.lines.toList.flatMap fun line => (wrapLine line.text width).map (⟨line.severity, ·⟩)

/-- The collected rows are the first of all rows read backwards. -/
theorem newestRows_eq (width rows : Nat) (lines : List Line) :
    newestRows width rows lines =
      (lines.flatMap fun line =>
        ((wrapLine line.text width).map (⟨line.severity, ·⟩)).reverse).take rows := by
  induction lines generalizing rows with
  | nil => rw [newestRows, List.flatMap_nil, List.take_nil]
  | cons line older ih =>
      rw [newestRows, List.flatMap_cons]
      split
      · rename_i hzero
        rw [hzero, List.take_zero]
      · -- a line that has more rows than are wanted gives its last ones
        simp only [ih, List.map_take, ← List.map_reverse, List.take_append, List.length_take,
          List.length_map, List.length_reverse]
        rw [show rows - min rows _ = rows - (wrapLine line.text width).length by omega]

theorem tail_eq (b : Body) (width rows : Nat) :
    b.tail width rows = (b.wrapped width).drop ((b.wrapped width).length - rows) := by
  have hbackwards : (b.lines.toList.reverse.flatMap fun line =>
      ((wrapLine line.text width).map (⟨line.severity, ·⟩)).reverse) =
      (b.wrapped width).reverse := by
    rw [wrapped, List.reverse_flatMap]
    rfl
  rw [tail, newestRows_eq, hbackwards, List.take_reverse, List.reverse_reverse]

theorem length_tail_le (b : Body) (width rows : Nat) : (b.tail width rows).length ≤ rows := by
  rw [tail_eq, List.length_drop]
  omega

end StatusBoard.Log.Body
