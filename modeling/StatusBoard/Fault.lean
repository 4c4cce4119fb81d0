/-!
Everything that can go wrong, told apart by cause.

`Fault` is one inductive type for the whole board.  Each fault has a stable code that machines can
read; the wording lives in `Fault.message` alone.
-/

namespace StatusBoard

/-- Kinds of failure of a stream or a file. -/
inductive IoKind
  | notFound
  | permissionDenied
  | brokenPipe
  | timedOut
  | isDirectory
  | invalidData
  | other
  deriving DecidableEq, Repr

/-- Description of a kind for a failure that says nothing more. -/
def IoKind.description : IoKind → String
  | notFound => "entity not found"
  | permissionDenied => "permission denied"
  | brokenPipe => "broken pipe"
  | timedOut => "timed out"
  | isDirectory => "is a directory"
  | invalidData => "invalid data"
  | other => "other error"

/-- A failure of a stream or a file. -/
structure IoError where
  kind : IoKind
  message : String
  deriving DecidableEq, Repr

namespace IoError

def noSuchFile : IoError := ⟨.notFound, "No such file or directory (os error 2)"⟩

def directory : IoError := ⟨.isDirectory, "Is a directory (os error 21)"⟩

def notUtf8 : IoError := ⟨.invalidData, "stream did not contain valid UTF-8"⟩

end IoError

/-- Causes of failure. -/
inductive Fault
  | invalidConfig (details : String)
  | missingConfig (path : String)
  | configParse (context details : String)
  | noConsole (tried : List String)
  | screenBind (details : String)
  | release (path details : String)
  | state (path details : String)
  | addresses (details : String)
  | serialization (context details : String)
  | io (path : String) (cause : IoError)
  | runtime (details : String)
  deriving DecidableEq, Repr

namespace Fault

def code : Fault → String
  | invalidConfig _ => "OSD-1001"
  | missingConfig _ => "OSD-1002"
  | configParse .. => "OSD-1003"
  | noConsole _ => "OSD-2001"
  | screenBind _ => "OSD-2002"
  | release .. => "OSD-3001"
  | state .. => "OSD-3002"
  | addresses _ => "OSD-3003"
  | serialization .. => "OSD-3101"
  | io .. => "OSD-4001"
  | runtime _ => "OSD-4900"

def pathList : List String → String
  | [] => "no paths"
  | paths => ", ".intercalate paths

def description : Fault → String
  | invalidConfig details => "invalid configuration: " ++ details
  | missingConfig path => "missing configuration file: " ++ path
  | configParse context details => "configuration parse failure in " ++ context ++ ": " ++ details
  | noConsole tried => "no console device could be opened (tried " ++ pathList tried ++ ")"
  | screenBind details => "screen could not bind to console stream: " ++ details
  | release path details => "os-release lookup failed for " ++ path ++ ": " ++ details
  | state path details => "state store failure for " ++ path ++ ": " ++ details
  | addresses details => "address enumeration failed: " ++ details
  | serialization context details => "serialization failure in " ++ context ++ ": " ++ details
  | io path cause => "IO failure at " ++ path ++ ": " ++ cause.message
  | runtime details => "runtime failure: " ++ details

def message (f : Fault) : String := "[" ++ f.code ++ "] " ++ f.description

def isRetryable : Fault → Bool
  | io .. | release .. | state .. | addresses _ | runtime _ => true
  | _ => false

def isFatal : Fault → Bool
  | noConsole _ | screenBind _ => true
  | _ => false

def isUserError : Fault → Bool
  | invalidConfig _ | missingConfig _ | configParse .. => true
  | _ => false

end Fault

end StatusBoard
