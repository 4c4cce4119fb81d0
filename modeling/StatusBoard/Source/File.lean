import StatusBoard.Fault
import StatusBoard.Text.Utf8

/-!
What stands under a file name, and reading it as text.
-/

namespace StatusBoard.Source

open Text

/-- What stands under a file name. -/
inductive File
  | absent
  | directory
  /-- A file that may not be opened. -/
  | refused (cause : IoError)
  | bytes (content : List UInt8)
  deriving DecidableEq, Repr

namespace File

def isPresent : File → Bool
  | absent => false
  | _ => true

def readText : File → Except IoError String
  | absent => .error .noSuchFile
  | directory => .error .directory
  | refused cause => .error cause
  | bytes content =>
      match Utf8.decode? content with
      | some t => .ok t
      | none => .error .notUtf8

end File

end StatusBoard.Source
