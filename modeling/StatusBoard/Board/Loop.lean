import StatusBoard.Board.Basic
import StatusBoard.Log.Event

/-!
The event loop that paints the board.

The loop sleeps until a repaint is asked for, input arrives, or some time has passed.  It then
takes over the size of the console, and paints if a repaint was asked for or the size has changed.
Which of several things wakes it is not determined, so what woke it is an argument here.
-/

namespace StatusBoard.Board

/-- What woke the loop. -/
inductive Wake
  | request
  | input (chunk : List UInt8)
  | inputClosed
  | timeout
  deriving DecidableEq, Repr

def interruptKey : UInt8 := 0x03

def repaintKey : UInt8 := 0x0c

/-- The board under its event loop. -/
structure Loop where
  board : Board
  out : Stream
  /-- Whether the last paint of this run failed. -/
  isFailing : Bool
  /-- Whether the loop has been told to end. -/
  isEnded : Bool
  /-- Events reported so far. -/
  events : List Log.Event

/-- What the outside answers while the loop is awake: the size of the console, and the facts,
should they be asked for. -/
structure Answers where
  size : Terminal.Size
  facts : Frame.Facts

namespace Loop

def target : String := "osd_console::dashboard"

/-- Reported when the key that ends the loop is read. -/
def interrupted : Log.Event :=
  ⟨.info, target, "interrupt received on console, stopping dashboard", []⟩

/-- Reported when a paint fails after one that did not. -/
def paintFailed (e : IoError) : Log.Event :=
  ⟨.warn, target, "console paint failed", [("error", e.message)]⟩

def closed : Log.Event := ⟨.debug, target, "console input closed", []⟩

def resized (s : Terminal.Size) : Log.Event :=
  ⟨.debug, target, "console geometry changed",
    [("width", toString s.width), ("height", toString s.height)]⟩

/-- The loop before it sleeps for the first time; it asks for a first paint. -/
def start (b : Board) (out : Stream) : Loop := ⟨b.request, out, false, false, []⟩

def report (l : Loop) (e : Log.Event) : Loop := { l with events := l.events ++ [e] }

def stop (l : Loop) : Loop := { l with isEnded := true }

/-- Deal with what woke the loop, and say whether a repaint was asked for. -/
def receive (l : Loop) : Wake → Loop × Bool
  | .request => ({ l with board := l.board.takeRequest.1 }, true)
  | .input chunk =>
      if chunk.contains interruptKey then ((l.report interrupted).stop, false)
      else if chunk.contains repaintKey then ({ l with board := l.board.invalidate }, false)
      else (l, false)
  | .inputClosed => (l.report closed, false)
  | .timeout => (l, false)

/-- Take over the size of the console; if it has changed, ask the sources again.  Says whether it
has changed. -/
def adapt (l : Loop) (a : Answers) : Loop × Bool :=
  let (board, changed) := l.board.syncSize a.size
  if changed then (({ l with board := board.apply a.facts }).report (resized a.size), true)
  else ({ l with board }, false)

/-- Paint, and report a failure unless the paint before failed too. -/
def paint (l : Loop) : Loop :=
  match l.board.paint l.out with
  | (board, out, .ok ()) => { l with board, out, isFailing := false }
  | (board, out, .error e) =>
      let l' : Loop := { l with board, out, isFailing := true }
      if l.isFailing then l' else l'.report (paintFailed e)

/-- One round of the loop.  The key that ends the loop ends it at once. -/
def round (l : Loop) (a : Answers) (w : Wake) : Loop :=
  let (l, isAsked) := l.receive w
  if l.isEnded then l
  else
    let (l, isResized) := l.adapt a
    if isAsked || isResized then l.paint else l

/-- Rounds of the loop until it has ended, with what wakes it and what is answered in each. -/
def run (l : Loop) : List (Answers × Wake) → Loop
  | [] => l
  | (a, w) :: rest => if l.isEnded then l else run (l.round a w) rest

end Loop

end StatusBoard.Board
