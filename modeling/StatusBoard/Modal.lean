import StatusBoard.Canvas.Draw
import StatusBoard.Log.Wrap

/-!
The modal dialog: a titled box in the middle of the screen with a message and, if it has a
maximum, a progress bar below a separator.
-/

namespace StatusBoard

open Text

/-- A dialog that covers part of the frame. -/
structure Modal where
  title : String
  message : String
  progress : Int64
  max : Int64
  deriving DecidableEq

namespace Modal

/-- A bar is shown only for a positive maximum. -/
def hasProgress (m : Modal) : Bool := 0 < m.max

def done (m : Modal) : Int64 :=
  if m.progress < 0 then 0 else if m.max < m.progress then m.max else m.progress

def fraction (m : Modal) : Float :=
  if m.hasProgress then m.done.toFloat / m.max.toFloat else 0.0

/-- The box of a dialog: three quarters of the width and half the height of the screen, centered.
-/
def layout (screen : Rect) : Rect := screen.centered (screen.width * 3 / 4) (screen.height / 2)

/-- Rows for the message inside a box; borders take two, the bar and its separator two more. -/
def messageRows (m : Modal) (box : Rect) : Nat :=
  box.height - (if m.hasProgress then 4 else 2)

def filledCell : Char := '█'

def emptyCell : Char := '░'

/-- A fraction brought into the range from zero to one; a fraction that is no number stays so. -/
def clampFraction (f : Float) : Float :=
  let f := if f < 0.0 then 0.0 else f
  if 1.0 < f then 1.0 else f

/-- Number of filled cells of a bar: the nearest to the fraction, a half counting as one, and none
if the fraction is no number. -/
def filledCells (fraction : Float) (width : Nat) : Nat :=
  min (clampFraction fraction * Float.ofNat width).round.toUInt64.toNat width

def progressBar (fraction : Float) (width : Nat) : String :=
  let filled := filledCells fraction width
  String.ofList (List.replicate filled filledCell ++ List.replicate (width - filled) emptyCell)

def messageLines (m : Modal) (width : Nat) : List String :=
  (lines m.message).flatMap fun line => Log.wrapLine line width

def drawRows (c : Canvas) (area : Rect) (y : Nat) : List String → Canvas
  | [] => c
  | row :: rest => drawRows (c.putText area.x y row .normal area.right).1 area (y + 1) rest

/-- Draw the dialog over a region; a region too small for its box is left as it is. -/
def render (m : Modal) (c : Canvas) (screen : Rect) : Canvas :=
  let box := layout screen
  if box.width < 2 || box.height < 2 then c
  else
    let c := (c.fill box ' ' .normal).drawBox box (some m.title)
    let inner := box.inner
    let c := drawRows c inner inner.y ((m.messageLines inner.width).take (m.messageRows box))
    if m.hasProgress && 2 ≤ inner.height then
      let y := inner.bottom - 1
      let c := c.drawSeparator box (y - 1)
      (c.putText inner.x y (progressBar m.fraction inner.width) .progress inner.right).1
    else c

end Modal

end StatusBoard
