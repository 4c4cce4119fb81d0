import StatusBoard.Log.Body

/-!
Events that the board reports about itself, and the lines in which they are logged.
-/

namespace StatusBoard.Log

/-- An event: where it comes from, what happened, and the values that go with it. -/
structure Event where
  level : Level
  target : String
  message : String
  fields : List (String × String)
  deriving DecidableEq, Repr

namespace Event

/-- The name of a level, set to the right in five columns. -/
def levelColumn (l : Level) : String :=
  String.ofList (List.replicate (5 - l.label.length) ' ') ++ l.label

/-- A character of a message.  Those that would start a command to a terminal, or move its cursor
back or to another page, are written as escapes. -/
def escape (c : Char) : List Char :=
  match c with
  | '\x1b' => ['\\', 'x', '1', 'b']
  | '\x07' => ['\\', 'x', '0', '7']
  | '\x08' => ['\\', 'x', '0', '8']
  | '\x0c' => ['\\', 'x', '0', 'c']
  | '\x7f' => ['\\', 'x', '7', 'f']
  | c =>
      if 0x80 ≤ c.toNat ∧ c.toNat < 0xA0 then
        ['\\', 'u', '\x7b'] ++ Nat.toDigits 16 c.toNat ++ ['\x7d']
      else [c]

def shownMessage (e : Event) : String := String.ofList (e.message.toList.flatMap escape)

def line (e : Event) : String :=
  levelColumn e.level ++ " " ++ e.target ++ ": " ++ e.shownMessage ++
    String.join (e.fields.map fun f => " " ++ f.1 ++ "=" ++ f.2) ++ "\n"

/-- The record of an event.  Its severity is that of its level, whatever its text says. -/
def record (e : Event) : Record := ⟨e.level.severity, e.line⟩

end Event

end StatusBoard.Log
