import StatusBoard.Canvas.Basic
import StatusBoard.Stream
import StatusBoard.Terminal.Command
import StatusBoard.Terminal.Geometry

/-!
The screen: a stream that a console reads, and what that console is taken to show.

A canvas is drawn by sending the rows in which it differs from what the console shows.  When that
is unknown, or of another size, the console is cleared and every row is sent.
-/

namespace StatusBoard.Terminal

/-- What is known about the console behind a stream. -/
structure Screen where
  size : Size
  theme : Theme
  /-- The canvas drawn last, as long as the console can be taken to show it. -/
  shown : Option Canvas
  deriving DecidableEq

namespace Screen

/-- A screen of a size about whose console nothing is known. -/
def fresh (size : Size) (theme : Theme) : Screen := ⟨size, theme, none⟩

def bindCommands : List Command := [.hideCursor, .resetColor, .clear, .moveTo 0 0]

def restoreCommands : List Command := [.resetColor, .clear, .moveTo 0 0, .showCursor]

def runCommands (theme : Theme) (run : List Cell) : List Command :=
  let color := match run.head?.bind fun k => theme.color k.tone with
    | some c => [.foreground c]
    | none => []
  color ++ [.print (run.map Cell.ch)]

def cellCommands (theme : Theme) (cells : List Cell) : List Command :=
  let cells := cells.filter fun k => !k.isContinuation
  (cells.splitBy fun a b => a.tone = b.tone).flatMap (runCommands theme)

/-- The cells of a row that are sent.  The last cell of the last row is not, because a console may
scroll when it is written. -/
def sentCells (c : Canvas) (y : Nat) : List Cell :=
  if y + 1 = c.height then (c.row y).dropLast else c.row y

def rowCommands (theme : Theme) (c : Canvas) (y : Nat) : List Command :=
  .moveTo 0 y :: cellCommands theme (sentCells c y)

/-- The canvas that a draw of `c` can build upon: the one shown, if it has the same size. -/
def base (s : Screen) (c : Canvas) : Option Canvas :=
  s.shown.filter fun p => p.width = c.width && p.height = c.height

def isStale (base : Option Canvas) (c : Canvas) (y : Nat) : Bool :=
  match base with
  | some p => p.row y ≠ c.row y
  | none => true

/-- The commands that make the console show a canvas. -/
def drawCommands (s : Screen) (c : Canvas) : List Command :=
  let base := s.base c
  (if base.isNone then [.resetColor, .clear] else []) ++
    ((List.range c.height).filter (isStale base c)).flatMap (rowCommands s.theme c) ++
    [.resetColor]

def invalidate (s : Screen) : Screen := { s with shown := none }

/-- Take a new size; says whether it is another one. -/
def resize (s : Screen) (size : Size) : Screen × Bool :=
  if size = s.size then (s, false) else ({ s with size, shown := none }, true)

def bind (size : Size) (theme : Theme) (out : Stream) : Stream × Except Fault Screen :=
  match out.send (Command.encode bindCommands) with
  | (out, .ok ()) => (out, .ok (fresh size theme))
  | (out, .error e) => (out, .error (.screenBind e.message))

/-- Draw a canvas.  After a failure the console is still taken to show what was drawn before. -/
def draw (s : Screen) (c : Canvas) (out : Stream) : Screen × Stream × Except IoError Unit :=
  match out.send (Command.encode (s.drawCommands c)) with
  | (out, .ok ()) => ({ s with shown := some c }, out, .ok ())
  | (out, .error e) => (s, out, .error e)

def restore (s : Screen) (out : Stream) : Screen × Stream × Except IoError Unit :=
  let (out, result) := out.send (Command.encode restoreCommands)
  (s.invalidate, out, result)

end Screen

end StatusBoard.Terminal
