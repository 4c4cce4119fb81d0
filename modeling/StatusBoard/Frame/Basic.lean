import StatusBoard.Canvas.Draw
import StatusBoard.Log.Body

/-!
The frame: the persistent header and footer around the log pane.

Header entries stack downwards and footer entries upwards.  Each alignment counts its rows by
itself, so a label on the left and a clock on the right share the first row.  One blank row
separates header and footer from the body.
-/

namespace StatusBoard.Frame

open Text

/-- Where on its row an entry is drawn. -/
inductive Align
  | left
  | center
  | right
  deriving DecidableEq, Repr

/-- A run of text in one tone. -/
structure Span where
  text : String
  tone : Tone
  deriving DecidableEq, Repr

/-- One header or footer entry. -/
structure Entry where
  spans : List Span
  header : Bool
  align : Align
  deriving DecidableEq, Repr

def Entry.width (e : Entry) : Nat := e.spans.foldl (fun n s => n + displayWidth s.text) 0

/-- What fills the space between header and footer. -/
inductive Pane
  | empty
  | log
  deriving DecidableEq, Repr

/-- One row number for each alignment. -/
structure Rows where
  left : Nat
  center : Nat
  right : Nat
  deriving DecidableEq, Repr

namespace Rows

def all (y : Nat) : Rows := ⟨y, y, y⟩

def get (r : Rows) : Align → Nat
  | .left => r.left
  | .center => r.center
  | .right => r.right

def put (r : Rows) (y : Nat) : Align → Rows
  | .left => { r with left := y }
  | .center => { r with center := y }
  | .right => { r with right := y }

/-- The lowest row on the screen, which is the largest number. -/
def highest (r : Rows) : Nat := max r.left (max r.center r.right)

def lowest (r : Rows) : Nat := min r.left (min r.center r.right)

theorem get_put (r : Rows) (y : Nat) (a b : Align) :
    (r.put y a).get b = if b = a then y else r.get b := by
  cases a <;> cases b <;> rfl

end Rows

end Frame

open StatusBoard.Frame in
/-- Header and footer entries in the order they were added, and the pane between them. -/
structure Frame where
  entries : List Entry
  pane : Pane
  deriving DecidableEq, Repr

namespace Frame

open Text

def empty : Frame := ⟨[], .empty⟩

def clear (f : Frame) : Frame := { f with entries := [] }

def add (f : Frame) (e : Entry) : Frame := { f with entries := f.entries ++ [e] }

def footerLines (f : Frame) : List String :=
  ((f.entries.filter fun e => !e.header).map fun e =>
    trimEnd (String.join (e.spans.map Span.text))).reverse

/-- Draw the spans of an entry one after the other. -/
def drawSpans (c : Canvas) (area : Rect) (col y : Nat) : List Span → Canvas
  | [] => c
  | s :: rest =>
      let (c, n) := c.putText col y s.text s.tone area.right
      drawSpans c area (col + n) y rest

/-- Draw an entry on a row of a region. -/
def drawEntry (c : Canvas) (area : Rect) (y : Nat) (e : Entry) : Canvas :=
  let width := min e.width maxCoord
  let x := match e.align with
    | .left => area.x
    | .center => area.x + (area.width - width) / 2
    | .right => area.x + (area.width - width)
  drawSpans c area x y e.spans

/-- The canvas, the next free header rows and the footer rows taken last. -/
structure Progress where
  canvas : Canvas
  top : Rows
  bottom : Rows

/-- Draw an entry on the next row of its kind, or drop it if the region has no such row. -/
def Progress.place (area : Rect) (p : Progress) (e : Entry) : Progress :=
  if e.header then
    let y := p.top.get e.align
    if area.bottom ≤ y then p
    else { p with canvas := drawEntry p.canvas area y e, top := p.top.put (y + 1) e.align }
  else
    let y := p.bottom.get e.align
    if y ≤ area.y then p
    else
      { p with canvas := drawEntry p.canvas area (y - 1) e, bottom := p.bottom.put (y - 1) e.align }

/-- The rows of a region that are left to the body, with a blank row kept to a header and a
footer: the first of them and the first below them. -/
def bodyRows (area : Rect) (top bottom : Rows) : Nat × Nat :=
  (if area.y < top.highest then top.highest + 1 else area.y,
    if bottom.lowest < area.bottom then bottom.lowest - 1 else area.bottom)

/-- Draw rows of log text one below the other. -/
def drawLogRows (c : Canvas) (area : Rect) (y : Nat) : List Log.Line → Canvas
  | [] => c
  | l :: rest =>
      drawLogRows (c.putText area.x y l.text l.severity.tone area.right).1 area (y + 1) rest

/-- Draw a box with the end of the log in it. -/
def drawLogPane (c : Canvas) (area : Rect) (log : Log.Body) : Canvas :=
  let c := c.drawBox area none
  let inner := area.inner
  if inner.isEmpty then c else drawLogRows c inner inner.y (log.tail inner.width inner.height)

/-- Draw the frame into a region of a canvas. -/
def render (f : Frame) (c : Canvas) (area : Rect) (log : Log.Body) : Canvas :=
  if area.isEmpty then c
  else
    let p := f.entries.foldl (Progress.place area) ⟨c, .all area.y, .all area.bottom⟩
    let (first, last) := bodyRows area p.top p.bottom
    if first < last && f.pane = .log then
      drawLogPane p.canvas ⟨area.x, first, area.width, last - first⟩ log
    else p.canvas

end Frame

end StatusBoard
