import StatusBoard.Compose
import StatusBoard.Frame.Facts
import StatusBoard.Terminal.Screen

/-!
The board: the screen, the frame, the pages over it and the log.

Everything that changes what is to be seen also asks for a repaint.  The request is a single flag:
however many changes are waiting, one repaint shows them all.  Each change is therefore two steps,
the change itself and the request, and is written here as the one followed by the other.
-/

namespace StatusBoard

/-- The state behind the screen. -/
structure Board where
  screen : Terminal.Screen
  frame : Frame
  pages : Pages
  log : Log.Body
  /-- Whether a repaint has been asked for and not yet begun. -/
  isRequested : Bool
  deriving DecidableEq

namespace Board

/-- A board on a screen, with nothing on it. -/
def start (screen : Terminal.Screen) (maxLogLines : Nat) : Board :=
  ⟨screen, .empty, .base, .empty maxLogLines, false⟩

def request (b : Board) : Board := { b with isRequested := true }

/-- Take the request for a repaint, if there is one. -/
def takeRequest (b : Board) : Board × Bool := ({ b with isRequested := false }, b.isRequested)

/-- Fill the frame for the width that the screen has now. -/
def setFacts (b : Board) (d : Frame.Facts) : Board :=
  { b with frame := b.frame.rebuild d b.screen.size.width }

def addRecord (b : Board) (r : Log.Record) : Board := { b with log := b.log.append r }

/-- Put a dialog over the frame, in place of the one before. -/
def setModal (b : Board) (m : Modal) : Board :=
  { b with pages := b.pages.addOrReplace Pages.modalName (.modal m) }

/-- Take the dialog away, and say whether there was one. -/
def dropModal (b : Board) : Board × Bool :=
  let (pages, removed) := b.pages.remove Pages.modalName
  ({ b with pages }, removed)

def forget (b : Board) : Board := { b with screen := b.screen.invalidate }

def apply (b : Board) (d : Frame.Facts) : Board := (b.setFacts d).request

def append (b : Board) (r : Log.Record) : Board := (b.addRecord r).request

def showModal (b : Board) (m : Modal) : Board := (b.setModal m).request

/-- Remove the dialog.  If there is none, nothing has to be painted. -/
def removeModal (b : Board) : Board :=
  let (b, removed) := b.dropModal
  if removed then b.request else b

def invalidate (b : Board) : Board := b.forget.request

/-- Take over the size that the console has now, and say whether it is another one. -/
def syncSize (b : Board) (size : Terminal.Size) : Board × Bool :=
  let (screen, changed) := b.screen.resize size
  ({ b with screen }, changed)

def picture (b : Board) : Canvas :=
  compose b.frame b.log b.pages b.screen.size.width b.screen.size.height

def paint (b : Board) (out : Stream) : Board × Stream × Except IoError Unit :=
  let (screen, out, result) := b.screen.draw b.picture out
  ({ b with screen }, out, result)

def restore (b : Board) (out : Stream) : Board × Stream × Except IoError Unit :=
  let (screen, out, result) := b.screen.restore out
  ({ b with screen }, out, result)

end Board

end StatusBoard
