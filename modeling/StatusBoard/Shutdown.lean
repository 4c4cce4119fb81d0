/-!
The token that ends the board, and the signals that set it.
-/

namespace StatusBoard

/-- Requests from outside: to end the board, and to send every row again. -/
structure Requests where
  shutdown : Bool
  repaint : Bool
  deriving DecidableEq, Repr

/-- The signals that the board listens to. -/
inductive Signal
  | hangup
  | terminate
  | interrupt
  deriving DecidableEq, Repr

namespace Requests

def none : Requests := ⟨false, false⟩

def cancel (r : Requests) : Requests := { r with shutdown := true }

def askRepaint (r : Requests) : Requests := { r with repaint := true }

/-- Take the request for a repaint, if there is one. -/
def takeRepaint (r : Requests) : Requests × Bool := ({ r with repaint := false }, r.repaint)

def raise (r : Requests) : Signal → Requests
  | .hangup => r.askRepaint
  | .terminate | .interrupt => r.cancel

/-- The outcome of waiting for the end without anybody asking for it: whether it has been asked
for already, and whether the whole time has passed. -/
def wait (r : Requests) (milliseconds : Nat) : Bool × Bool :=
  (r.shutdown, !r.shutdown || milliseconds = 0)

end Requests

end StatusBoard
