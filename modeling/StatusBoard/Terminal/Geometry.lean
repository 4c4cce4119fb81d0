import StatusBoard.Canvas.Rect
import StatusBoard.Text.Numeral

/-!
How large the screen is: fixed by the configuration, or asked for again and again.
-/

namespace StatusBoard.Terminal

open Text

/-- Columns and rows of a screen. -/
structure Size where
  width : Nat
  height : Nat
  deriving DecidableEq, Repr, Inhabited

namespace Size

/-- The size that is assumed when nothing is known. -/
def standard : Size := ⟨80, 24⟩

/-- The size of a console that reports columns and rows; a console that reports a zero knows
neither. -/
def reported? (columns rows : Nat) : Option Size :=
  if 0 < columns ∧ 0 < rows then some ⟨columns, rows⟩ else none

end Size

/-- Where the size of the screen comes from. -/
inductive Geometry
  | fixed (size : Size)
  | console
  deriving DecidableEq, Repr

namespace Geometry

/-- A configured width or height fixes the size; the other side then has its standard value. -/
def ofOverride : Option Nat → Option Nat → Geometry
  | none, none => console
  | width, height =>
      fixed ⟨width.getD Size.standard.width, height.getD Size.standard.height⟩

/-- A positive coordinate that a variable of the environment gives. -/
def readSide (value : Option String) : Option Nat :=
  match value.map fun v => readNat maxCoord (trim v) with
  | some (.ok n) => if 0 < n then some n else none
  | _ => none

/-- The size that the variables `COLUMNS` and `LINES` give together. -/
def environmentSize (columns lines : Option String) : Option Size :=
  match readSide columns, readSide lines with
  | some w, some h => some ⟨w, h⟩
  | _, _ => none

/-- The size now, given what the console answers and the size that the environment gives. -/
def size (g : Geometry) (answer environment : Option Size) : Size :=
  match g with
  | fixed s => s
  | console => (answer <|> environment).getD Size.standard

end Geometry

end StatusBoard.Terminal
