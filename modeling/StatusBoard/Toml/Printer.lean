import StatusBoard.Json.Printer
import StatusBoard.Toml.Text

/-!
Writing a TOML document of sections.

A text is written in the plainest style that can hold it: between double quotes, or, if it holds a
double quote or a backslash, between single quotes.  A text of several lines, or one that holds
both quotes, is written as a block, and one that no other style can hold is written with escapes.
-/

namespace StatusBoard.Toml

/-- The value of a key in a section. -/
inductive Item
  | text (t : String)
  | texts (ts : List String)
  | integer (n : Int)
  | boolean (b : Bool)
  deriving DecidableEq, Repr

/-- A table with a header, and its keys and values. -/
structure Section where
  name : String
  items : List (String × Item)
  deriving DecidableEq, Repr

namespace Printer

/-- A control character that can only be written as an escape. -/
def needsEscape (c : Char) : Bool :=
  (c.toNat < 0x20 && c ≠ '\t' && c ≠ '\n') || c.toNat = 0x7F

/-- Whether a character occurs more than twice in a row, after `count` of it. -/
def hasLongRun (q : Char) (count : Nat) : List Char → Bool
  | [] => false
  | c :: rest =>
      if c = q then 2 ≤ count || hasLongRun q (count + 1) rest else hasLongRun q 0 rest

def styleOf (cs : List Char) : Style :=
  let isClean := cs.all fun c => !needsEscape c
  let isFree := isClean && !cs.contains '\\'
  let isLine := !cs.contains '\n'
  if isFree && isLine && !cs.contains '"' then .basic
  else if isClean && isLine && !cs.contains '\'' then .literal
  else if isFree && !hasLongRun '"' 0 cs then .basicBlock
  else if isClean && !hasLongRun '\'' 0 cs then .literalBlock
  else if isLine then .basic
  else .basicBlock

/-- A character as an escape, where it has to be one in any style with escapes. -/
def escape? (c : Char) : Option (List Char) :=
  match c with
  | '\\' => some ['\\', '\\']
  | '\x08' => some ['\\', 'b']
  | '\x0c' => some ['\\', 'f']
  | '\r' => some ['\\', 'r']
  | '\t' => some ['\\', 't']
  | c =>
      if needsEscape c then some (['\\', 'u', '0', '0'] ++ (Json.hexByte c.toNat).map Char.toUpper)
      else none

/-- The spelling of a text in a style with escapes, after `quotes` double quotes in a row.  In a
block two in a row may stand as they are. -/
def escaped (isBlock : Bool) (quotes : Nat) : List Char → List Char
  | [] => []
  | c :: rest =>
      if c = '"' then
        if isBlock && quotes < 2 then c :: escaped isBlock (quotes + 1) rest
        else '\\' :: c :: escaped isBlock 0 rest
      else if c = '\n' then
        if isBlock then c :: escaped isBlock 0 rest else '\\' :: 'n' :: escaped isBlock 0 rest
      else (escape? c).getD [c] ++ escaped isBlock 0 rest

def spelling (s : Style) (cs : List Char) : List Char :=
  if s.hasEscapes then escaped s.isBlock 0 cs else cs

/-- A text between the quotes of a style.  A block of several lines starts on a line of its own.
-/
def quotedIn (s : Style) (cs : List Char) : List Char :=
  let quotes := List.replicate (if s.isBlock then 3 else 1) s.quote
  let start := if s.isBlock && cs.contains '\n' then ['\n'] else []
  quotes ++ start ++ spelling s cs ++ quotes

def text (t : String) : List Char := quotedIn (styleOf t.toList) t.toList

/-- The texts of an array, each on a line of its own. -/
def textLines (ts : List String) : List Char :=
  ts.flatMap fun t => List.replicate 4 ' ' ++ text t ++ [',', '\n']

/-- The value of a key.  An array of two or more texts takes a line for each. -/
def item : Item → List Char
  | .text t => text t
  | .texts [] => ['[', ']']
  | .texts [t] => '[' :: text t ++ [']']
  | .texts ts => '[' :: '\n' :: textLines ts ++ [']']
  | .integer n => (toString n).toList
  | .boolean b => (toString b).toList

def line (e : String × Item) : List Char := e.1.toList ++ [' ', '=', ' '] ++ item e.2 ++ ['\n']

def sectionLines (s : Section) : List Char :=
  '[' :: s.name.toList ++ [']', '\n'] ++ s.items.flatMap line

/-- The lines of some sections, with a blank line between two of them. -/
def sectionsLines : List Section → List Char
  | [] => []
  | [s] => sectionLines s
  | s :: rest => sectionLines s ++ '\n' :: sectionsLines rest

end Printer

def print (sections : List Section) : String := String.ofList (Printer.sectionsLines sections)

end StatusBoard.Toml
