import StatusBoard.Frame.Facts
import StatusBoard.Source.Addresses
import StatusBoard.Source.Applications
import StatusBoard.Source.Release

/-!
What the sources answer when they are asked, and the facts that the board makes of it.

No failure of a source keeps the board from being drawn: each one is shown in its place or leaves
its place empty.
-/

namespace StatusBoard.Source

/-- Answers of the sources at one moment. -/
structure Readings where
  release : Except Fault String
  applications : Except Fault Applications
  addresses : Except Fault (List String)
  /-- Seconds since the start of 1970. -/
  now : Int

namespace Readings

def sorted (ts : List String) : List String := ts.mergeSort fun a b => decide (a ≤ b)

/-- The facts: a release that could not be read is replaced by the fault in brackets, addresses by
the fault itself, and applications are left out. -/
def facts (r : Readings) (product : String) : Frame.Facts :=
  { product
    version := match r.release with
      | .ok v => v
      | .error e => "[" ++ e.message ++ "]"
    now := r.now
    addresses := match r.addresses with
      | .ok as => as
      | .error e => [e.message]
    applications := match r.applications with
      | .ok as => sorted as.labels
      | .error _ => [] }

end Readings

end StatusBoard.Source
