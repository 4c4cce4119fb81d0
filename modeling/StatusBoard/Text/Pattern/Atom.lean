import StatusBoard.Text.Blank
import StatusBoard.Text.Numeral

/-!
The atoms of a pattern: single characters, and what a backslash makes of the character after it.

A pattern is over the characters of Unicode unless it says that it is over bytes.  No tables of
Unicode are kept for patterns.  So what would need one (the named classes, the ends of words,
letters in either case) can only be used in a pattern over bytes; and since texts are in UTF-8,
such a pattern may not reach beyond ASCII byte by byte.
-/

namespace StatusBoard.Text.Pattern

/-- How a part of a pattern is read. -/
structure Flags where
  /-- Letters stand for both their cases. -/
  isCaseless : Bool
  /-- The pattern is over the characters of Unicode. -/
  isUnicode : Bool
  /-- White space and comments do not count. -/
  isSpaced : Bool
  deriving DecidableEq, Repr

/-- How a pattern is read from its start on. -/
def Flags.initial : Flags := ⟨false, true, false⟩

/-- Drop white space, and comments, which go from a number sign to the end of the line. -/
def dropIgnored (inComment : Bool) : List Char → List Char
  | [] => []
  | c :: cs =>
      if inComment then dropIgnored (c ≠ '\n') cs
      else if c = '#' then dropIgnored true cs
      else if isBlank c then dropIgnored false cs
      else c :: cs

/-- Drop what does not count at the start of the rest of a pattern. -/
def Flags.advance (f : Flags) (cs : List Char) : List Char :=
  if f.isSpaced then dropIgnored false cs else cs

/-- An atom. -/
inductive Atom
  | char (c : Char)
  /-- A byte by its number. -/
  | byte (n : Nat)
  /-- Digits, white space or the characters of words, or all but them. -/
  | named (isNegated : Bool)
  /-- The start or the end of the text. -/
  | edge
  /-- The start or the end of a word. -/
  | wordEdge
  deriving DecidableEq, Repr

/-- The character or byte for which an atom stands, by its number. -/
def Atom.code? : Atom → Option Nat
  | .char c => some c.toNat
  | .byte n => some n
  | _ => none

def Atom.isAllowed (f : Flags) : Atom → Bool
  | .char _ => !(f.isUnicode && f.isCaseless)
  | .byte n => if f.isUnicode then !f.isCaseless else n < 0x80
  | .named isNegated => !f.isUnicode && !isNegated
  | .edge => true
  | .wordEdge => !f.isUnicode

/-- Whether an atom can be used in a set of characters. -/
def Atom.isMember (f : Flags) (a : Atom) : Bool :=
  match a with
  | .char c => a.isAllowed f && (f.isUnicode || c.toNat < 0x80)
  | .byte _ | .named _ => a.isAllowed f
  | .edge | .wordEdge => false

/-- Read a number of the given count of hexadecimal digits. -/
def readHex (f : Flags) : Nat → Nat → List Char → Option (Nat × List Char)
  | 0, value, cs => some (value, cs)
  | count + 1, value, cs =>
      match f.advance cs with
      | [] => none
      | c :: rest => (hexDigit? c).bind fun d => readHex f count (value * 16 + d) rest

/-- The atom of a character given by its number. -/
def readCode (f : Flags) (count : Nat) (cs : List Char) : Option (Atom × List Char) :=
  (readHex f count 0 cs).bind fun (n, rest) =>
    if n.isValidChar then some (if count = 2 then .byte n else .char (Char.ofNat n), rest) else none

/-- Whether a backslash before a character takes a special meaning away from it.  Letters and
digits have none, and two signs have one only after the backslash. -/
def isEscapable (c : Char) : Bool :=
  c.toNat < 0x80 && !c.isAlphanum && c ≠ '<' && c ≠ '>'

def readEscape (f : Flags) : List Char → Option (Atom × List Char)
  | [] => none
  | c :: rest =>
      match c with
      | 'x' => readCode f 2 rest
      | 'u' => readCode f 4 rest
      | 'U' => readCode f 8 rest
      | 'd' | 's' | 'w' => some (.named false, rest)
      | 'D' | 'S' | 'W' => some (.named true, rest)
      | 'a' => some (.char '\x07', rest)
      | 'f' => some (.char '\x0c', rest)
      | 't' => some (.char '\t', rest)
      | 'n' => some (.char '\n', rest)
      | 'r' => some (.char '\r', rest)
      | 'v' => some (.char '\x0b', rest)
      | 'A' | 'z' => some (.edge, rest)
      | 'b' | 'B' | '<' | '>' => some (.wordEdge, rest)
      | c => if isEscapable c then some (.char c, rest) else none

def readAtom (f : Flags) : List Char → Option (Atom × List Char)
  | [] => none
  | '\\' :: rest => readEscape f rest
  | c :: rest => some (.char c, rest)

end StatusBoard.Text.Pattern
