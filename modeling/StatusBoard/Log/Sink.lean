import StatusBoard.Log.Body
import StatusBoard.Log.Markers
import StatusBoard.Stream

/-!
The log sink: bytes written to it become records of the log, and go on unchanged to a mirror.

A piece of text is logged first and mirrored afterwards, so it is in the log even if the mirror
fails. Its severity is that of the event it belongs to, or else found from the markers.
-/

namespace StatusBoard.Log

open Text

/-- A sink, with the mirror that it copies to. -/
structure Sink where
  markers : Markers
  mirror : Option Stream
  deriving DecidableEq

/-- What became of a write: the record it made, and how many bytes it counts as written. -/
structure Receipt where
  record : Option Record
  result : Except IoError Nat

namespace Sink

/-- The record of some bytes.  Ill-formed pieces of the text are replaced. -/
def record (s : Sink) (severity : Option Severity) (bytes : List UInt8) : Record :=
  ⟨severity.getD (s.markers.classify bytes), Utf8.decodeLossy bytes⟩

def copy (s : Sink) (bytes : List UInt8) : Sink × Except IoError Nat :=
  match s.mirror with
  | none => (s, .ok bytes.length)
  | some m =>
      let (m, result) := m.send bytes
      ({ s with mirror := some m }, result.map fun _ => bytes.length)

/-- Write bytes, of an event of the given severity or of none.  Nothing is not logged. -/
def write (s : Sink) (severity : Option Severity) (bytes : List UInt8) : Sink × Receipt :=
  if bytes = [] then (s, ⟨none, .ok 0⟩)
  else
    let (s', result) := s.copy bytes
    (s', ⟨some (s.record severity bytes), result⟩)

end Sink

end StatusBoard.Log
