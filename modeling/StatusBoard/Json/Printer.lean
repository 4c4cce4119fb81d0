import StatusBoard.Json.Value

/-!
Writing JSON values, in one line or indented.
-/

namespace StatusBoard.Json

def hexByte (n : Nat) : List Char := [Nat.digitChar (n / 16), Nat.digitChar (n % 16)]

def escapeChar (c : Char) : List Char :=
  match c with
  | '"' => ['\\', '"']
  | '\\' => ['\\', '\\']
  | '\x08' => ['\\', 'b']
  | '\x0c' => ['\\', 'f']
  | '\n' => ['\\', 'n']
  | '\r' => ['\\', 'r']
  | '\t' => ['\\', 't']
  | c => if c.toNat < 0x20 then ['\\', 'u', '0', '0'] ++ hexByte c.toNat else [c]

def textLiteral (t : String) : List Char := '"' :: t.toList.flatMap escapeChar ++ ['"']

/-- A string that may be no text; what is no text is written as null. -/
def optionalText : Option String → List Char
  | some t => textLiteral t
  | none => "null".toList

mutual

def compactChars : Json → List Char
  | .null => "null".toList
  | .bool true => "true".toList
  | .bool false => "false".toList
  | .number n => n.toList
  | .text t => optionalText t
  | .array items => '[' :: compactItems items ++ [']']
  | .object members => '\x7b' :: compactMembers members ++ ['\x7d']

def compactItems : List Json → List Char
  | [] => []
  | [v] => compactChars v
  | v :: w :: rest => compactChars v ++ [','] ++ compactItems (w :: rest)

def compactMembers : List (Option String × Json) → List Char
  | [] => []
  | [(name, v)] => optionalText name ++ [':'] ++ compactChars v
  | (name, v) :: m :: rest =>
      optionalText name ++ [':'] ++ compactChars v ++ [','] ++ compactMembers (m :: rest)

end

def compact (v : Json) : String := String.ofList (compactChars v)

/-- Start of a line at a depth of nesting; each level is indented by two blanks. -/
def lineStart (depth : Nat) : List Char := '\n' :: List.replicate (2 * depth) ' '

mutual

/-- A value with each item and member on a line of its own. -/
def prettyChars (depth : Nat) : Json → List Char
  | .array [] => ['[', ']']
  | .array (v :: rest) =>
      '[' :: prettyItems (depth + 1) (v :: rest) ++ lineStart depth ++ [']']
  | .object [] => ['\x7b', '\x7d']
  | .object (m :: rest) =>
      '\x7b' :: prettyMembers (depth + 1) (m :: rest) ++ lineStart depth ++ ['\x7d']
  | v => compactChars v

def prettyItems (depth : Nat) : List Json → List Char
  | [] => []
  | [v] => lineStart depth ++ prettyChars depth v
  | v :: w :: rest =>
      lineStart depth ++ prettyChars depth v ++ [','] ++ prettyItems depth (w :: rest)

def prettyMembers (depth : Nat) : List (Option String × Json) → List Char
  | [] => []
  | [(name, v)] => lineStart depth ++ optionalText name ++ [':', ' '] ++ prettyChars depth v
  | (name, v) :: m :: rest =>
      lineStart depth ++ optionalText name ++ [':', ' '] ++ prettyChars depth v ++ [','] ++
        prettyMembers depth (m :: rest)

end

def pretty (v : Json) : String := String.ofList (prettyChars 0 v)

end StatusBoard.Json
