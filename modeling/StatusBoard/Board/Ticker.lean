import StatusBoard.Board.Basic
import StatusBoard.Cadence

/-!
The ticks that refresh the board, and that clear the console from time to time.

At each tick the request for a repaint is taken first.  A tick that clears resets the console
before the screen is invalidated, so that the paint that follows sends every row to a console that
has been reset already.
-/

namespace StatusBoard.Board

/-- The ticker between two ticks. -/
structure Ticker where
  /-- Ticks so far. -/
  ticks : UInt64
  /-- Whether someone has asked for every row to be sent again. -/
  isForced : Bool
  deriving DecidableEq, Repr

namespace Ticker

def start (isForced : Bool) : Ticker := ⟨0, isForced⟩

def clearsNext (t : Ticker) (every : Nat) : Bool := Cadence.clears t.ticks.toNat every

/-- The first part of a tick, up to the question to the sources: it takes the request, and
invalidates the screen if the console has been reset or the request was there. -/
def prepare (t : Ticker) (every : Nat) (b : Board) : Ticker × Board :=
  ({ t with isForced := false },
    if t.clearsNext every || t.isForced then b.invalidate else b)

/-- The second part of a tick: the facts are shown and the tick is counted. -/
def complete (t : Ticker) (b : Board) (d : Frame.Facts) : Ticker × Board :=
  ({ t with ticks := t.ticks + 1 }, b.apply d)

end Ticker

end StatusBoard.Board
