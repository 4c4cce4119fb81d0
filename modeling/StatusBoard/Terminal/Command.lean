import StatusBoard.Terminal.Theme
import StatusBoard.Text.Utf8

/-!
What a console is told: the commands that drive it, and the bytes that stand for them.

Columns and rows are counted from zero here and from one in the bytes.
-/

namespace StatusBoard.Terminal

open Text

/-- The parameters that select a color. -/
def Color.parameters : Color → List Nat
  | standard => [39]
  | numbered n => [38, 5, n.toNat]
  | mixed red green blue => [38, 2, red.toNat, green.toNat, blue.toNat]

/-- A command to a console. -/
inductive Command
  | hideCursor
  | showCursor
  /-- Print in the default color from here on. -/
  | resetColor
  /-- Blank every cell. -/
  | clear
  | moveTo (x y : Nat)
  /-- Print in the given color from here on. -/
  | foreground (c : Color)
  | print (text : List Char)
  deriving DecidableEq, Repr

namespace Command

def controlSequence (body : List Char) : List Char := '\x1b' :: '[' :: body

def decimal (n : Nat) : List Char := Nat.toDigits 10 n

/-- The numbers of a control sequence. -/
def numbers (ns : List Nat) : List Char := [';'].intercalate (ns.map decimal)

def chars : Command → List Char
  | hideCursor => controlSequence ['?', '2', '5', 'l']
  | showCursor => controlSequence ['?', '2', '5', 'h']
  | resetColor => controlSequence ['0', 'm']
  | clear => controlSequence ['2', 'J']
  | moveTo x y => controlSequence (numbers [y + 1, x + 1] ++ ['H'])
  | foreground c => controlSequence (numbers c.parameters ++ ['m'])
  | print text => text

def bytes (c : Command) : List UInt8 := c.chars.flatMap String.utf8EncodeChar

def encode (cs : List Command) : List UInt8 := cs.flatMap bytes

def fullReset : List UInt8 := Utf8.encode "\x1bc"

end Command

end StatusBoard.Terminal
