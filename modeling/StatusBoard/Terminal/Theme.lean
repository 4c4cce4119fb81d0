import StatusBoard.Canvas.Tone

/-!
The color in which each role of text is shown.
-/

namespace StatusBoard.Terminal

/-- A color of a console. -/
inductive Color
  /-- The color of a console that has been reset. -/
  | standard
  /-- A color of the palette of 256 colors. -/
  | numbered (n : UInt8)
  | mixed (red green blue : UInt8)
  deriving DecidableEq, Repr

namespace Color

def white : Color := numbered 15

def green : Color := numbered 10

def darkYellow : Color := numbered 3

def red : Color := numbered 9

def cyan : Color := numbered 14

end Color

/-- A color for every role. -/
structure Palette where
  normal : Color
  label : Color
  warning : Color
  error : Color
  border : Color
  title : Color
  progress : Color
  deriving DecidableEq, Repr

namespace Palette

def standard : Palette where
  normal := .white
  label := .green
  warning := .darkYellow
  error := .red
  border := .white
  title := .white
  progress := .cyan

def color (p : Palette) : Tone → Color
  | .normal => p.normal
  | .label => p.label
  | .warning => p.warning
  | .error => p.error
  | .border => p.border
  | .title => p.title
  | .progress => p.progress

end Palette

/-- How roles become colors: with a palette, or not at all. -/
structure Theme where
  isColored : Bool
  palette : Palette
  deriving DecidableEq, Repr

namespace Theme

def standard : Theme := ⟨true, .standard⟩

/-- The theme without colors. -/
def plain : Theme := { standard with isColored := false }

/-- The theme for an environment in which `NO_COLOR` has the given value.  Any value, the empty
one included, turns colors off. -/
def ofNoColor (value : Option String) : Theme := if value.isSome then plain else standard

/-- The color of a role; none if colors are off. -/
def color (t : Theme) (tone : Tone) : Option Color :=
  if t.isColored then some (t.palette.color tone) else none

end Theme

end StatusBoard.Terminal
