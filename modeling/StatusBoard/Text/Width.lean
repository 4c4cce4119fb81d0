import StatusBoard.Text.Blank
import StatusBoard.Text.Width.Table

/-!
How many columns a terminal gives to a character and to a text.

`charWidth` looks at one character.  `displayWidth` measures a whole text, where neighbours
matter: an emoji sequence, a ligature or a Khmer subscript takes fewer columns than its characters
do one by one.  The text is read from its end to its start, because what a character adds is
decided by what stands right of it; `Ahead` is what has to be remembered of that.

The two measures differ on control characters as well: alone they have no width, in a text each
but the line end counts one column.
-/

namespace StatusBoard.Text

open Width

/-- Columns of a single character; control characters have none. -/
def charWidth (c : Char) : Option Nat :=
  if isControl c then none
  else if c.toNat < 0xAD then some 1
  else if zeroWidth.contains c then some 0
  else if doubleWidth.contains c then some 2
  else if c.toNat = 0x17D8 then some 3
  else some 1

theorem charWidth_eq_none_iff {c : Char} : charWidth c = none ↔ isControl c = true := by
  unfold charWidth
  repeat' split
  all_goals simp_all

namespace Width

/-- Letters that merge with a letter before them, by what completes the ligature. -/
inductive Ligature
  | lamed
  | ya
  | vowelYa
  | consonant
  | boundConsonant
  | lisuTone
  | orkhonI
  | coengLetter
  deriving DecidableEq, Repr

/-- What stands right of the character being measured, as far as that character's width depends on
it. -/
inductive Ahead
  | plain
  | lineFeed
  | skinTone
  | flagLetter
  | flagLetters
  | emoji
  | joinedEmoji
  | joinedKeycap
  | joinedFlagLetter
  | joinedFlag
  | joinedFlagAndLetter
  | tagEnd
  | tagDigits (count : Nat)
  | tagLetters (count : Nat)
  | alef
  | ligature (letter : Ligature) (joined : Bool)
  deriving DecidableEq, Repr

/-- `Ahead` together with the variation selectors that apply to the next character. -/
structure Context where
  ahead : Ahead
  emojiStyle : Bool
  textStyle : Bool
  deriving DecidableEq, Repr

namespace Ahead

def isScript : Ahead → Bool
  | alef | ligature .. => true
  | _ => false

/-- An emoji, or a keycap, that a joiner binds to what comes before it. -/
def isJoined : Ahead → Bool
  | joinedEmoji | joinedKeycap => true
  | _ => false

def alone (a : Ahead) : Context := ⟨a, false, false⟩

end Ahead

namespace Context

def start : Context := Ahead.plain.alone

def askEmoji (k : Context) : Context :=
  if k.ahead.isScript || k.ahead.isJoined then { k with emojiStyle := true }
  else ⟨.plain, true, false⟩

def askText (k : Context) : Context :=
  if k.ahead.isScript then { k with textStyle := true } else ⟨.plain, false, true⟩

/-- An emoji selector before a character that has no emoji form is dropped. -/
def dropEmojiStyle (k : Context) : Context :=
  if k.ahead.isScript then { k with emojiStyle := false } else start

end Context

/-- First characters of an emoji sequence that U+FE0F asks for. -/
def startsEmoji (c : Char) : Bool :=
  emojiOnRequest.contains c || textOnRequest.contains c || emojiIdeographs.contains c

def isFlagLetter (c : Char) : Bool := 0x1F1E6 ≤ c.toNat && c.toNat ≤ 0x1F1FF
def isSkinTone (c : Char) : Bool := 0x1F3FB ≤ c.toNat && c.toNat ≤ 0x1F3FF
def isTagLetter (c : Char) : Bool := 0xE0061 ≤ c.toNat && c.toNat ≤ 0xE007A
def isTagDigit (c : Char) : Bool := 0xE0030 ≤ c.toNat && c.toNat ≤ 0xE0039

/-- What a character is to the one left of it. -/
def role (c : Char) : Ahead :=
  let n := c.toNat
  if n = 0x5DC then .ligature .lamed false
  else if alefs.contains c then .alef
  else if coengLetters.contains c then .ligature .coengLetter true
  else if n = 0x1A10 then .ligature .ya false
  else if tifinaghConsonants.contains c then .ligature .consonant false
  else if n = 0xA4FC ∨ n = 0xA4FD then .ligature .lisuTone true
  else if n = 0x10C03 then .ligature .orkhonI false
  else if isFlagLetter c then .flagLetter
  else if isSkinTone c then .skinTone
  else if emojiByDefault.contains c then .emoji
  else .plain

def ownWidth (c : Char) : Int := (charWidth c).getD 1

/-- Columns added by a character that merges with what stands right of it, and what it then is to
the character on its left; `none` where the two do not merge. -/
def merge (a : Ahead) (c : Char) : Option (Int × Ahead) :=
  let n := c.toNat
  match a with
  | .alef =>
      if lams.contains c then some (0, .plain)
      else if charWidth c = some 0 && !opaqueZeroWidth.contains c then some (0, .alef)
      else none
  | .ligature .lamed true => if n = 0x5D0 then some (0, .plain) else none
  | .ligature .coengLetter _ => if n = 0x17D2 then some (-1, .plain) else none
  | .ligature .ya true => if n = 0x1A17 then some (0, .ligature .vowelYa true) else none
  | .ligature .vowelYa _ => if n = 0x1A15 then some (0, .plain) else none
  | .ligature .consonant joined =>
      if n = 0x2D7F then some (1, .ligature .boundConsonant true)
      else if joined && tifinaghConsonants.contains c then some (0, .plain)
      else none
  | .ligature .boundConsonant _ =>
      if tifinaghConsonants.contains c then some (-1, .plain) else none
  | .ligature .lisuTone _ =>
      if 0xA4F8 ≤ n ∧ n ≤ 0xA4FB then some (0, .plain) else none
  | .ligature .orkhonI true => if n = 0x10C32 then some (0, .plain) else none
  | .skinTone =>
      if skinToneBase.contains c then some (0, .emoji)
      else if n = 0x200D then some (0, .joinedEmoji)
      else none
  | .flagLetter => if isFlagLetter c then some (1, .flagLetters) else none
  | .flagLetters =>
      if isFlagLetter c then some (1, .flagLetters)
      else if n = 0x200D then some (0, .joinedEmoji)
      else none
  | .emoji => if n = 0x200D then some (0, .joinedEmoji) else none
  | .joinedEmoji =>
      if n = 0x20E3 then some (0, .joinedKeycap)
      else if isFlagLetter c then some (1, .joinedFlagLetter)
      else if isSkinTone c then some (0, .skinTone)
      else if n = 0xE007F then some (0, .tagEnd)
      else if role c = .emoji then some (0, .emoji)
      else none
  | .joinedFlagLetter => if isFlagLetter c then some (-1, .joinedFlag) else none
  | .joinedFlag =>
      if n = 0x200D then some (0, .joinedEmoji)
      else if isFlagLetter c then some (3, .joinedFlagAndLetter)
      else none
  | .joinedFlagAndLetter =>
      if n = 0x200D then some (0, .joinedEmoji)
      else if isFlagLetter c then some (-1, .joinedFlag)
      else none
  | .tagEnd =>
      if isTagLetter c then some (0, .tagLetters 1)
      else if isTagDigit c then some (0, .tagDigits 1)
      else none
  | .tagLetters k =>
      if isTagLetter c && k < 6 then some (0, .tagLetters (k + 1))
      else if isTagDigit c && k ≤ 4 then some (0, .tagDigits 1)
      else if n = 0x1F3F4 && 3 ≤ k then some (0, .emoji)
      else none
  | .tagDigits k =>
      if isTagDigit c && k < 3 then some (0, .tagDigits (k + 1))
      else if n = 0x1F3F4 && k = 3 then some (0, .emoji)
      else none
  | _ => none

/-- One character that is not touched by an emoji selector. -/
def measurePlain (c : Char) (k : Context) : Int × Context :=
  let n := c.toNat
  if n ≤ 0xA0 then
    if c = '\n' then (0, Ahead.lineFeed.alone)
    else if c = '\r' && k = Ahead.lineFeed.alone then (0, .start)
    else (1, .start)
  else if n = 0xFE0F then (0, k.askEmoji)
  else if n = 0xFE0E then (0, k.askText)
  else if k.textStyle && textOnRequest.contains c then (1, .start)
  else
    let a := k.ahead
    match a with
    | .ligature letter joined =>
        if n = 0x200D then (0, (Ahead.ligature letter true).alone)
        else if ligatureTransparent.contains c then (0, a.alone)
        else match merge (.ligature letter joined) c with
          | some (w, b) => (w, b.alone)
          | none => (ownWidth c, (role c).alone)
    | a => match merge a c with
        | some (w, b) => (w, b.alone)
        | none => (ownWidth c, (role c).alone)

/-- What a character adds in front of a context, and the context it leaves for its left
neighbour. -/
def measure (c : Char) (k : Context) : Int × Context :=
  if k.emojiStyle then
    if startsEmoji c then (if k.ahead.isJoined then 0 else 2, Ahead.emoji.alone)
    else measurePlain c k.dropEmojiStyle
  else measurePlain c k

/-- Columns of a text, with what its first character is to a character put before it. -/
def measureAll (cs : List Char) : Int × Context :=
  cs.foldr (fun c (sum, k) => let (w, k') := measure c k; (sum + w, k')) (0, .start)

end Width

def displayWidth (t : String) : Nat := (measureAll t.toList).1.toNat

end StatusBoard.Text
