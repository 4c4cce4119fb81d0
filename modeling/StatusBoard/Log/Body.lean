import StatusBoard.Log.Severity
import StatusBoard.Log.Wrap

/-!
The log behind the pane of the board: a bounded buffer of lines to which records are appended.

A record need not hold whole lines.  Text after its last newline stays open and is continued by
the next record.  The pane does not scroll; `tail` gives the rows that fit it.
-/

namespace StatusBoard.Log

open Text

/-- A piece of log text as it was written. -/
structure Record where
  severity : Severity
  text : String
  deriving DecidableEq, Repr

/-- A line of the log, or a row of a wrapped line. -/
structure Line where
  severity : Severity
  text : String
  deriving DecidableEq, Repr

/-- The lines kept, oldest first.  `isOpen` says that the last one has not seen its newline. -/
structure Body where
  lines : Array Line
  isOpen : Bool
  maxLines : Nat
  maxLines_pos : 0 < maxLines := by omega
  deriving DecidableEq

/-- Log text as it may be shown: a tab becomes a space and any other control character is dropped,
so that no text can drive the console. -/
def sanitize (cs : List Char) : List Char :=
  cs.filterMap fun c => if c = '\t' then some ' ' else if isControl c then none else some c

/-- Part of a record between newlines, and whether a newline ends it. -/
structure Segment where
  text : List Char
  closed : Bool
  deriving DecidableEq, Repr

/-- The segments of a text; there is none after a newline at the end. -/
def segments (cs : List Char) : List Segment :=
  let fields := split (· == '\n') cs
  let last := fields.getLastD []
  fields.dropLast.map (⟨·, true⟩) ++ (if last = [] then [] else [⟨last, false⟩])

namespace Body

/-- An empty log that keeps at most `maxLines` lines, and at least one. -/
def empty (maxLines : Nat) : Body := ⟨#[], false, max maxLines 1, by omega⟩

/-- Add one segment, to the last line if that is open. -/
def addSegment (severity : Severity) (b : Body) (s : Segment) : Body :=
  let text := String.ofList (sanitize s.text)
  let lines := match b.lines.back?, b.isOpen with
    | some last, true =>
        b.lines.pop.push ⟨last.severity.graver severity, last.text ++ text⟩
    | _, _ => b.lines.push ⟨severity, text⟩
  { b with lines, isOpen := !s.closed }

def evict (b : Body) : Body :=
  if b.lines.size ≤ b.maxLines then b
  else { b with lines := b.lines.extract (b.lines.size - b.maxLines) b.lines.size }

def append (b : Body) (r : Record) : Body :=
  ((segments r.text.toList).foldl (addSegment r.severity) b).evict

/-- At most `rows` rows of lines given newest first, the newest row first. -/
def newestRows (width : Nat) : Nat → List Line → List Line
  | _, [] => []
  | rows, line :: older =>
      if rows = 0 then []
      else
        let pieces := (wrapLine line.text width).reverse.take rows
        pieces.map (⟨line.severity, ·⟩) ++ newestRows width (rows - pieces.length) older

/-- The last `rows` rows of the log wrapped to `width`, in reading order. -/
def tail (b : Body) (width rows : Nat) : List Line :=
  (newestRows width rows b.lines.toList.reverse).reverse

end Body

end StatusBoard.Log
