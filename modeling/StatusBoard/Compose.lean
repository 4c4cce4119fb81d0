import StatusBoard.Frame.Basic
import StatusBoard.Pages

/-!
Composing the picture of the board from its pages.
-/

namespace StatusBoard

def Page.render (frame : Frame) (log : Log.Body) (c : Canvas) : Page → Canvas
  | .frame => frame.render c c.area log
  | .modal m => m.render c c.area

/-- Draw every page, bottom to top, on a blank canvas. -/
def compose (frame : Frame) (log : Log.Body) (pages : Pages) (width height : Nat) : Canvas :=
  pages.entries.foldl (fun c e => e.2.render frame log c) (Canvas.blank width height)

end StatusBoard
