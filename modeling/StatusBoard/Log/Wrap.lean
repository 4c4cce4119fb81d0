import StatusBoard.Text.Width

/-!
Breaking one line of text into rows of a pane.

A row ends at a space where it can.  A word wider than the pane is split between characters,
because a log line has to stay readable inside its box.
-/

namespace StatusBoard.Log

open Text

/-- Rows finished so far, the row being filled and the columns counted on it. -/
structure Wrapping where
  rows : Array String
  current : String
  used : Nat

namespace Wrapping

def start : Wrapping := ⟨#[], "", 0⟩

def breakRow (s : Wrapping) : Wrapping :=
  if s.current = "" then s else ⟨s.rows.push s.current, "", 0⟩

/-- Add one character of a word that is split. -/
def addChar (width : Nat) (s : Wrapping) (ch : Char) : Wrapping :=
  let w := (charWidth ch).getD 0
  let s := if width < s.used + w then s.breakRow else s
  { s with current := s.current.push ch, used := s.used + w }

/-- Add one word, on the current row if it fits there after a space. -/
def addWord (width : Nat) (s : Wrapping) (word : List Char) : Wrapping :=
  let text := String.ofList word
  let w := displayWidth text
  let gap := if s.current = "" then 0 else 1
  if s.used + gap + w ≤ width then
    { s with
      current := (if s.current = "" then s.current else s.current.push ' ') ++ text
      used := s.used + gap + w }
  else word.foldl (addChar width) s.breakRow

end Wrapping

/-- The rows of a text in a pane of the given width; none if the pane has no column. -/
def wrapLine (text : String) (width : Nat) : List String :=
  if width = 0 then []
  else
    let s := (split (· == ' ') text.toList).foldl (Wrapping.addWord width) .start
    (s.rows.push s.current).toList

end StatusBoard.Log
