/-!
Rectangles of cells.  Coordinates are 16-bit quantities, so an edge that would lie past the
largest coordinate is taken to lie on it.
-/

namespace StatusBoard

def maxCoord : Nat := 65535

def addCoord (a b : Nat) : Nat := min (a + b) maxCoord

/-- The sum of two coordinates, if it is one. -/
def addCoord? (a b : Nat) : Option Nat := if a + b ≤ maxCoord then some (a + b) else none

theorem addCoord_eq {a b : Nat} (h : a + b ≤ maxCoord) : addCoord a b = a + b :=
  Nat.min_eq_left h

/-- A region of cells, given by its top left cell and its extent. -/
structure Rect where
  x : Nat
  y : Nat
  width : Nat
  height : Nat
  deriving DecidableEq, Repr, Inhabited

namespace Rect

def right (r : Rect) : Nat := addCoord r.x r.width

def bottom (r : Rect) : Nat := addCoord r.y r.height

def isEmpty (r : Rect) : Bool := r.width = 0 || r.height = 0

/-- A region of the given extent, cut down to fit, in the middle of `r`.  An odd column or row
left over goes to the right or below. -/
def centered (r : Rect) (width height : Nat) : Rect :=
  let width := min width r.width
  let height := min height r.height
  { x := r.x + (r.width - width) / 2
    y := r.y + (r.height - height) / 2
    width
    height }

def inner (r : Rect) : Rect :=
  { x := addCoord r.x 1
    y := addCoord r.y 1
    width := r.width - 2
    height := r.height - 2 }

end Rect

end StatusBoard
