import StatusBoard.Canvas.Tone
import StatusBoard.Json.Value

/-!
How grave a log record is, and the finer levels at which events are emitted.
-/

namespace StatusBoard

/-- Gravity of a log record, in ascending order. -/
inductive Severity
  | info
  | warning
  | error
  deriving DecidableEq, Repr, Inhabited

namespace Severity

def rank : Severity → Nat
  | info => 0
  | warning => 1
  | error => 2

def less (a b : Severity) : Bool := a.rank < b.rank

def graver (a b : Severity) : Severity := if a.less b then b else a

/-- The tone in which text of this severity is shown. -/
def tone : Severity → Tone
  | info => .normal
  | warning => .warning
  | error => .error

def name : Severity → String
  | info => "info"
  | warning => "warning"
  | error => "error"

/-- The severity stored under a name; the names are exact. -/
def ofName? (s : String) : Option Severity :=
  [info, warning, error].find? fun v => v.name = s

/-- The severity that a value of a document stands for: its name, or an object whose only member
has the name and holds nothing. -/
def ofJson? : Json → Option Severity
  | .text (some s) | .object [(some s, .null)] => ofName? s
  | _ => none

end Severity

/-- Level of an event, from the most detailed to the gravest. -/
inductive Level
  | trace
  | debug
  | info
  | warn
  | error
  deriving DecidableEq, Repr, Inhabited

namespace Level

def rank : Level → Nat
  | trace => 0
  | debug => 1
  | info => 2
  | warn => 3
  | error => 4

def severity : Level → Severity
  | error => .error
  | warn => .warning
  | _ => .info

/-- The name of a level at the head of a log line. -/
def label : Level → String
  | trace => "TRACE"
  | debug => "DEBUG"
  | info => "INFO"
  | warn => "WARN"
  | error => "ERROR"

end Level

end StatusBoard
