import StatusBoard.Text.Width

/-!
Composing the footer: a labelled value is wrapped into lines that fit the console.

Lines break at white space only.  A word wider than the console stands unbroken on a line of its
own. The lines come back bottom-up, because the frame stacks footer entries from its last row
upwards.
-/

namespace StatusBoard.Frame

open Text

/-- One composed footer line; only the first in reading order carries the label. -/
structure FooterLine where
  label : Option String
  text : String
  deriving DecidableEq, Repr

namespace FooterLine

/-- The label as it is drawn, with its separator. -/
def labelText (l : FooterLine) : Option String := l.label.map (· ++ ": ")

/-- The line as it is drawn, without blanks at its end. -/
def plain (l : FooterLine) : String := trimEnd (l.labelText.getD "" ++ l.text)

def width (l : FooterLine) : Nat := displayWidth l.plain

def isEmpty (l : FooterLine) : Bool := l.label.isNone && l.text = ""

/-- A line below the first, before its first word. -/
def continuation : FooterLine := ⟨none, ""⟩

/-- Add a word after a space, or at the start. -/
def addWord (l : FooterLine) (word : String) : FooterLine :=
  { l with text := (if l.text = "" then l.text else l.text.push ' ') ++ word }

end FooterLine

/-- Lines finished so far, latest first, the line being filled, and the columns used on it, the
separator after its last item included. -/
structure FooterFill where
  done : List FooterLine
  current : FooterLine
  used : Nat

/-- Add one word, on a new line if the current one has no room for it. -/
def FooterFill.addWord (maxWidth : Nat) (f : FooterFill) (word : String) : FooterFill :=
  let w := displayWidth word
  let f :=
    if maxWidth < f.used + w && !f.current.isEmpty then
      ⟨f.current :: f.done, .continuation, 0⟩
    else f
  { f with current := f.current.addWord word, used := f.used + (w + 1) }

/-- Wrap a labelled value to `maxWidth` columns.  The lines come back bottom-up. -/
def wrapFooter (label text : String) (maxWidth : Nat) : List FooterLine :=
  let start : FooterFill := ⟨[], ⟨some label, ""⟩, displayWidth label + 2⟩
  let f := (words text).foldl (FooterFill.addWord maxWidth) start
  if f.current.isEmpty then f.done else f.current :: f.done

end StatusBoard.Frame
