import StatusBoard.Canvas.Basic
import StatusBoard.Text.Width

/-!
Drawing on a canvas: text, filled regions, boxes and separators.

All of it goes through `Canvas.set`, or for characters of two columns through the same two steps
(clear what the new cells cut, then write them), so no operation leaves half a character behind.
-/

namespace StatusBoard.Canvas

open Text

/-- Write the two halves of a character of two columns. -/
def setWide (c : Canvas) (x y : Nat) (ch : Char) (tone : Tone) : Canvas :=
  let c := (c.clearOverlap x y).clearOverlap (x + 1) y
  (c.write x y ⟨ch, tone⟩).write (x + 1) y ⟨Cell.continuationMark, tone⟩

/-- Write characters from a column on, and return the column after the last one.  Characters
without a column are dropped; the first one that would reach past `limit` ends the text. -/
def putChars (c : Canvas) (col y : Nat) (tone : Tone) (limit : Nat) : List Char → Canvas × Nat
  | [] => (c, col)
  | ch :: rest =>
      match charWidth ch with
      | none | some 0 => putChars c col y tone limit rest
      | some w =>
          if limit < addCoord col w then (c, col)
          else if w = 2 then putChars (c.setWide col y ch tone) (col + w) y tone limit rest
          else putChars (c.set col y ch tone) (col + w) y tone limit rest

/-- Write a text from `(x, y)` on, never past column `limit` or the right edge, and return the
number of columns written. -/
def putText (c : Canvas) (x y : Nat) (text : String) (tone : Tone) (limit : Nat) : Canvas × Nat :=
  let (c, col) := c.putChars x y tone (min limit c.width) text.toList
  (c, col - x)

/-! `putText` adds columns without a bound.  On the widest canvases a sum of columns can be no
coordinate, and the checked forms say where: they give nothing as soon as one is not. -/

def setWide? (c : Canvas) (x y : Nat) (ch : Char) (tone : Tone) : Option Canvas :=
  (addCoord? x 1).map fun _ => c.setWide x y ch tone

def putChars? (c : Canvas) (col y : Nat) (tone : Tone) (limit : Nat) :
    List Char → Option (Canvas × Nat)
  | [] => some (c, col)
  | ch :: rest =>
      match charWidth ch with
      | none | some 0 => putChars? c col y tone limit rest
      | some w =>
          if limit < addCoord col w then some (c, col)
          else do
            let c ← if w = 2 then c.setWide? col y ch tone else some (c.set col y ch tone)
            let next ← addCoord? col w
            putChars? c next y tone limit rest

/-- `putText` with every sum and difference of columns checked. -/
def putText? (c : Canvas) (x y : Nat) (text : String) (tone : Tone) (limit : Nat) :
    Option (Canvas × Nat) := do
  let (c, col) ← c.putChars? x y tone (min limit c.width) text.toList
  if x ≤ col then some (c, col - x) else none

/-- Write the same character to the cells of a row from `start` up to but not including `stop`. -/
def setRun (c : Canvas) (start stop y : Nat) (ch : Char) (tone : Tone) : Canvas :=
  (List.range' start (stop - start)).foldl (fun c x => c.set x y ch tone) c

/-- Write the same character to every cell of a region. -/
def fill (c : Canvas) (r : Rect) (ch : Char) (tone : Tone) : Canvas :=
  let bottom := min r.bottom c.height
  let right := min r.right c.width
  (List.range' r.y (bottom - r.y)).foldl (fun c y => c.setRun r.x right y ch tone) c

/-- Draw the four edges of a region, corners last. -/
def drawBorder (c : Canvas) (r : Rect) : Canvas :=
  let right := r.right - 1
  let bottom := r.bottom - 1
  let c := (List.range' (r.x + 1) (right - (r.x + 1))).foldl
    (fun c x => (c.set x r.y '─' .border).set x bottom '─' .border) c
  let c := (List.range' (r.y + 1) (bottom - (r.y + 1))).foldl
    (fun c y => (c.set r.x y '│' .border).set right y '│' .border) c
  (((c.set r.x r.y '┌' .border).set right r.y '┐' .border).set r.x bottom '└' .border).set
    right bottom '┘' .border

/-- Write a title centered in the top edge of a region, two cells away from either corner. -/
def drawTitle (c : Canvas) (r : Rect) (title : String) : Canvas :=
  let available := r.width - 4
  let width := min (min (displayWidth title) maxCoord) available
  let start := r.x + 2 + (available - width) / 2
  (c.putText start r.y title .title (start + width)).1

/-- Draw a box around a region, with an optional title in its top edge.  The interior is left as
it is, and a region too small for a box is not touched. -/
def drawBox (c : Canvas) (r : Rect) (title : Option String) : Canvas :=
  if r.width < 2 || r.height < 2 then c
  else
    let c := c.drawBorder r
    match title with
    | none => c
    | some title => if title = "" then c else c.drawTitle r title

/-- Draw a horizontal line at row `y` that joins the two side edges of a region. -/
def drawSeparator (c : Canvas) (r : Rect) (y : Nat) : Canvas :=
  if r.width < 2 then c
  else
    let right := r.right - 1
    ((c.set r.x y '├' .border).setRun (r.x + 1) right y '─' .border).set right y '┤' .border

/-- The characters of a row without the continuation marks and the white space at the end. -/
def rowText (c : Canvas) (y : Nat) : String :=
  trimEnd (String.ofList (((c.row y).filter fun k => !k.isContinuation).map Cell.ch))

/-- The rows of the canvas as lines of text. -/
def toText (c : Canvas) : String :=
  "\n".intercalate ((List.range c.height).map c.rowText)

end StatusBoard.Canvas
