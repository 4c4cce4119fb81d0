import StatusBoard.Canvas.Tone
import StatusBoard.Canvas.Rect

/-!
The grid of styled cells that every picture is composed on before any of it reaches a device.

A character of two columns occupies a cell and the cell right of it, which then holds a
continuation marker.  `cell?` is the view of a canvas; the lemmas about `blank` and `write` say
what each does to it, and nothing else needs to look at the array behind it.
-/

namespace StatusBoard

/-- One column of one row. -/
structure Cell where
  ch : Char
  tone : Tone
  deriving DecidableEq, Repr, Inhabited

namespace Cell

/-- What stands in the cell right of a character of two columns. -/
def continuationMark : Char := '\x00'

def blank : Cell := ⟨' ', .normal⟩

/-- Whether this is the right half of the character in the cell before. -/
def isContinuation (k : Cell) : Bool := k.ch = continuationMark

end Cell

/-- A grid of `width` by `height` cells, stored row by row. -/
structure Canvas where
  width : Nat
  height : Nat
  cells : Array Cell
  size_cells : cells.size = width * height
  deriving DecidableEq

namespace Canvas

def blank (width height : Nat) : Canvas :=
  ⟨width, height, Array.replicate (width * height) Cell.blank, by simp⟩

def area (c : Canvas) : Rect := ⟨0, 0, c.width, c.height⟩

/-- The cell at a position, if the position is on the canvas. -/
def cell? (c : Canvas) (x y : Nat) : Option Cell :=
  if x < c.width ∧ y < c.height then c.cells[y * c.width + x]? else none

/-- Replace one cell and look at no other; a position off the canvas changes nothing. -/
def write (c : Canvas) (x y : Nat) (k : Cell) : Canvas :=
  if x < c.width ∧ y < c.height then
    { c with
      cells := c.cells.setIfInBounds (y * c.width + x) k
      size_cells := by simpa using c.size_cells }
  else c

/-- The cells of a row from left to right; none past the bottom edge. -/
def row (c : Canvas) (y : Nat) : List Cell :=
  if y < c.height then (c.cells.extract (y * c.width) (y * c.width + c.width)).toList else []

@[simp] theorem width_blank (w h : Nat) : (blank w h).width = w := rfl
@[simp] theorem height_blank (w h : Nat) : (blank w h).height = h := rfl

@[simp] theorem width_write (c : Canvas) (x y : Nat) (k : Cell) :
    (c.write x y k).width = c.width := by
  unfold write
  split <;> rfl

@[simp] theorem height_write (c : Canvas) (x y : Nat) (k : Cell) :
    (c.write x y k).height = c.height := by
  unfold write
  split <;> rfl

theorem index_lt {c : Canvas} {x y : Nat} (hx : x < c.width) (hy : y < c.height) :
    y * c.width + x < c.cells.size := by
  rw [c.size_cells]
  calc
    y * c.width + x < y * c.width + c.width := by omega
    _ = (y + 1) * c.width := by rw [Nat.succ_mul]
    _ ≤ c.height * c.width := Nat.mul_le_mul_right _ hy
    _ = c.width * c.height := Nat.mul_comm _ _

theorem isSome_cell? {c : Canvas} {x y : Nat} :
    (c.cell? x y).isSome = true ↔ x < c.width ∧ y < c.height := by
  unfold cell?
  split
  · rename_i h
    simp [h, index_lt h.1 h.2]
  · rename_i h
    simp [h]

theorem cell?_blank {w h x y : Nat} (hx : x < w) (hy : y < h) :
    (blank w h).cell? x y = some Cell.blank := by
  have hi := index_lt (c := blank w h) hx hy
  simp only [blank, Array.size_replicate] at hi
  simp [cell?, blank, hx, hy, hi]

theorem index_inj {w x y x' y' : Nat} (hx : x < w) (hx' : x' < w)
    (h : y * w + x = y' * w + x') : x = x' ∧ y = y' := by
  have hw : 0 < w := Nat.lt_of_le_of_lt (Nat.zero_le _) hx
  have hmod : x = x' := by
    have := congrArg (· % w) h
    simpa [Nat.mul_comm _ w, Nat.mul_add_mod, Nat.mod_eq_of_lt hx, Nat.mod_eq_of_lt hx'] using this
  refine ⟨hmod, ?_⟩
  subst hmod
  exact Nat.eq_of_mul_eq_mul_right hw (Nat.add_right_cancel h)

theorem cell?_write (c : Canvas) (x y : Nat) (k : Cell) (x' y' : Nat) :
    (c.write x y k).cell? x' y' =
      if x' = x ∧ y' = y ∧ x < c.width ∧ y < c.height then some k else c.cell? x' y' := by
  by_cases hin : x < c.width ∧ y < c.height
  · by_cases hin' : x' < c.width ∧ y' < c.height
    · by_cases hxy : x' = x ∧ y' = y
      · obtain ⟨rfl, rfl⟩ := hxy
        simp [cell?, write, hin, index_lt hin.1 hin.2]
      · have hne : y * c.width + x ≠ y' * c.width + x' := by
          intro h
          have := index_inj hin.1 hin'.1 h
          exact hxy ⟨this.1.symm, this.2.symm⟩
        have hcond : ¬ (x' = x ∧ y' = y ∧ x < c.width ∧ y < c.height) := by
          rintro ⟨h1, h2, -⟩
          exact hxy ⟨h1, h2⟩
        rw [if_neg hcond]
        simp [cell?, write, hin, Array.getElem?_setIfInBounds_ne hne]
    · have hcond : ¬ (x' = x ∧ y' = y ∧ x < c.width ∧ y < c.height) := by
        rintro ⟨rfl, rfl, h⟩
        exact hin' h
      rw [if_neg hcond]
      simp [cell?, hin']
  · have hcond : ¬ (x' = x ∧ y' = y ∧ x < c.width ∧ y < c.height) := by
      rintro ⟨-, -, h⟩
      exact hin h
    rw [if_neg hcond]
    simp [write, hin]

/-- Blank the other half of a character of two columns that covers the position. -/
def clearOverlap (c : Canvas) (x y : Nat) : Canvas :=
  match c.cell? x y with
  | none => c
  | some k =>
      if k.isContinuation then
        if x = 0 then c
        else match c.cell? (x - 1) y with
          | some wide => c.write (x - 1) y ⟨' ', wide.tone⟩
          | none => c
      else match c.cell? (x + 1) y with
        | some next => if next.isContinuation then c.write (x + 1) y ⟨' ', k.tone⟩ else c
        | none => c

/-- Overwrite one cell.  A character of two columns that loses either half is blanked entirely, so
that a row keeps its number of columns. -/
def set (c : Canvas) (x y : Nat) (ch : Char) (tone : Tone) : Canvas :=
  (c.clearOverlap x y).write x y ⟨ch, tone⟩

@[simp] theorem width_clearOverlap (c : Canvas) (x y : Nat) :
    (c.clearOverlap x y).width = c.width := by
  unfold clearOverlap
  repeat' split
  all_goals simp

@[simp] theorem height_clearOverlap (c : Canvas) (x y : Nat) :
    (c.clearOverlap x y).height = c.height := by
  unfold clearOverlap
  repeat' split
  all_goals simp

@[simp] theorem width_set (c : Canvas) (x y : Nat) (ch : Char) (t : Tone) :
    (c.set x y ch t).width = c.width := by
  simp [set]

@[simp] theorem height_set (c : Canvas) (x y : Nat) (ch : Char) (t : Tone) :
    (c.set x y ch t).height = c.height := by
  simp [set]

end Canvas

end StatusBoard
