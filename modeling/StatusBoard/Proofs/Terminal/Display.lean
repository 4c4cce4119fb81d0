import StatusBoard.Proofs.Canvas.WellFormed
import StatusBoard.Proofs.Text.Utf8
import StatusBoard.Terminal.Command

/-!
A console: what it shows, and how it reads what it is sent.

A console reads characters one by one.  An escape character starts a control sequence wherever it
comes; every other character is either part of the sequence begun or is printed.
-/

namespace StatusBoard.Terminal

open Text

/-- What one cell of a console shows. -/
structure Glyph where
  ch : Char
  color : Color
  deriving DecidableEq, Repr

def Glyph.blank : Glyph := ⟨' ', .standard⟩

/-- What a console shows at each column and row, and how it goes on from there. -/
structure Display where
  cells : Nat → Nat → Glyph
  x : Nat
  y : Nat
  color : Color
  isCursorShown : Bool

namespace Display

/-- The display of a console that has been reset. -/
def initial : Display := ⟨fun _ _ => .blank, 0, 0, .standard, true⟩

/-- Print a character at the cursor.  Further columns that it takes show a continuation mark. -/
def put (d : Display) (ch : Char) : Display :=
  { d with
    cells := fun x y =>
      if y = d.y ∧ d.x ≤ x ∧ x < d.x + columns ch then
        ⟨if x = d.x then ch else Cell.continuationMark, d.color⟩
      else d.cells x y
    x := d.x + columns ch }

def exec (d : Display) : Command → Display
  | .hideCursor => { d with isCursorShown := false }
  | .showCursor => { d with isCursorShown := true }
  | .resetColor => { d with color := .standard }
  | .clear => { d with cells := fun _ _ => .blank }
  | .moveTo x y => { d with x, y }
  | .foreground c => { d with color := c }
  | .print text => text.foldl put d

/-- What some commands do to a display, one after the other. -/
def execAll (d : Display) (cs : List Command) : Display := cs.foldl exec d

@[simp] theorem execAll_nil (d : Display) : d.execAll [] = d := rfl

@[simp] theorem execAll_cons (d : Display) (c : Command) (cs : List Command) :
    d.execAll (c :: cs) = (d.exec c).execAll cs := rfl

@[simp] theorem execAll_append (d : Display) (cs cs' : List Command) :
    d.execAll (cs ++ cs') = (d.execAll cs).execAll cs' := List.foldl_append

@[simp] theorem x_exec_moveTo (d : Display) (x y : Nat) : (d.exec (.moveTo x y)).x = x := rfl
@[simp] theorem y_exec_moveTo (d : Display) (x y : Nat) : (d.exec (.moveTo x y)).y = y := rfl

@[simp] theorem cells_exec_moveTo (d : Display) (x y : Nat) :
    (d.exec (.moveTo x y)).cells = d.cells := rfl

@[simp] theorem color_put (d : Display) (ch : Char) : (d.put ch).color = d.color := rfl
@[simp] theorem y_put (d : Display) (ch : Char) : (d.put ch).y = d.y := rfl

theorem cells_put_of_ne {d : Display} {y : Nat} (h : y ≠ d.y) (ch : Char) (x : Nat) :
    (d.put ch).cells x y = d.cells x y := if_neg fun hin => h hin.1

theorem color_foldl_put (d : Display) (text : List Char) : (text.foldl put d).color = d.color := by
  induction text generalizing d with
  | nil => rfl
  | cons ch text ih => exact ih (d.put ch)

theorem y_foldl_put (d : Display) (text : List Char) : (text.foldl put d).y = d.y := by
  induction text generalizing d with
  | nil => rfl
  | cons ch text ih => exact ih (d.put ch)

theorem cells_foldl_put_of_ne {d : Display} {y : Nat} (h : y ≠ d.y) (text : List Char) (x : Nat) :
    (text.foldl put d).cells x y = d.cells x y := by
  induction text generalizing d with
  | nil => rfl
  | cons ch text ih => exact (ih (d := d.put ch) h).trans (cells_put_of_ne h ch x)

def number (digits : List Char) : Nat := Nat.ofDigitChars 10 digits 0

def byte (digits : List Char) : UInt8 := .ofNat (number digits)

/-- What a control sequence with the given parameters and last character does; one that is not
known does nothing. -/
def control (d : Display) (params : List Char) (final : Char) : Display :=
  match final, split (· == ';') params with
  | 'l', [['?', '2', '5']] => { d with isCursorShown := false }
  | 'h', [['?', '2', '5']] => { d with isCursorShown := true }
  | 'm', [['0']] => { d with color := .standard }
  | 'm', [['3', '9']] => { d with color := .standard }
  | 'm', [['3', '8'], ['5'], n] => { d with color := .numbered (byte n) }
  | 'm', [['3', '8'], ['2'], red, green, blue] =>
      { d with color := .mixed (byte red) (byte green) (byte blue) }
  | 'J', [['2']] => { d with cells := fun _ _ => .blank }
  | 'H', [row, column] => { d with x := number column - 1, y := number row - 1 }
  | _, _ => d

end Display

/-- What a console expects next: a character to print, or the rest of a control sequence. -/
inductive Mode
  | ground
  | escape
  | sequence (params : List Char)
  deriving DecidableEq, Repr

structure Console where
  display : Display
  mode : Mode

def escapeChar : Char := '\x1b'

def isFinal (ch : Char) : Bool := '@' ≤ ch && ch ≤ '~'

namespace Console

def read (k : Console) (ch : Char) : Console :=
  if ch = escapeChar then { k with mode := .escape }
  else match k.mode with
    | .ground => { k with display := k.display.put ch }
    | .escape =>
        if ch = '[' then { k with mode := .sequence [] }
        else if ch = 'c' then ⟨.initial, .ground⟩
        else { k with mode := .ground }
    | .sequence params =>
        if isFinal ch then ⟨k.display.control params ch, .ground⟩
        else { k with mode := .sequence (params ++ [ch]) }

def readAll (k : Console) (cs : List Char) : Console := cs.foldl read k

def receive (k : Console) (bs : List UInt8) : Console := k.readAll (Utf8.chars bs)

@[simp] theorem readAll_nil (k : Console) : k.readAll [] = k := rfl

@[simp] theorem readAll_cons (k : Console) (ch : Char) (cs : List Char) :
    k.readAll (ch :: cs) = (k.read ch).readAll cs := rfl

@[simp] theorem readAll_append (k : Console) (cs cs' : List Char) :
    k.readAll (cs ++ cs') = (k.readAll cs).readAll cs' := List.foldl_append

@[simp] theorem receive_nil (k : Console) : k.receive [] = k := rfl

end Console

end StatusBoard.Terminal
