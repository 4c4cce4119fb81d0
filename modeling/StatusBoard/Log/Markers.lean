import StatusBoard.Log.Severity
import StatusBoard.Text.Utf8

/-!
Finding out how grave a piece of log text is from the markers that occur in it.
-/

namespace StatusBoard.Log

open Text

/-- Whether `needle` stands somewhere in `hay`, in one piece. -/
def occursIn (needle : List UInt8) : List UInt8 → Bool
  | [] => needle.isEmpty
  | b :: rest => needle.isPrefixOf (b :: rest) || occursIn needle rest

/-- Texts that mark a warning and an error. -/
structure Markers where
  warning : String
  error : String
  deriving DecidableEq, Repr

namespace Markers

def standard : Markers := ⟨"level=WARN", "level=ERROR"⟩

/-- Whether a marker occurs in the bytes; an empty marker never does. -/
def hits (marker : String) (bytes : List UInt8) : Bool :=
  marker ≠ "" && occursIn (Utf8.encode marker) bytes

/-- The severity of a piece of text.  Where both markers occur it is a warning. -/
def classify (m : Markers) (bytes : List UInt8) : Severity :=
  if hits m.warning bytes then .warning
  else if hits m.error bytes then .error
  else .info

end Markers

end StatusBoard.Log
