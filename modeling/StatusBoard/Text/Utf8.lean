/-!
UTF-8: encoding a text, decoding bytes strictly, and decoding bytes that may be malformed.

`units` reads bytes from left to right and gives one entry per character and one `none` per
maximal ill-formed piece, that is, a longest start of a character that cannot be continued, or a
byte that starts none.  Strict decoding refuses a `none`, lenient decoding replaces it by U+FFFD.
-/

namespace StatusBoard.Text.Utf8

def encode (t : String) : List UInt8 := t.toList.flatMap String.utf8EncodeChar

def size (t : String) : Nat := (encode t).length

/-- What the next byte has to be. -/
inductive Expect
  /-- The first byte of a character. -/
  | first
  /-- One of `left + 1` more bytes, this one between `low` and `high`; `value` holds the bits read
  so far. -/
  | more (left : Nat) (low high : UInt8) (value : Nat)

/-- What one byte that starts a character says: the whole of it, its first bits, or nothing. -/
inductive Lead
  | whole (c : Char)
  | start (left : Nat) (low high : UInt8) (value : Nat)
  | none

/-- Classify the first byte of a character.  The bounds on the second byte rule out overlong
forms, surrogates and code points past U+10FFFF. -/
def lead (b : UInt8) : Lead :=
  let n := b.toNat
  if n < 0x80 then .whole (Char.ofNat n)
  else if n < 0xC2 then .none
  else if n < 0xE0 then .start 0 0x80 0xBF (n - 0xC0)
  else if n < 0xF0 then
    .start 1 (if n = 0xE0 then 0xA0 else 0x80) (if n = 0xED then 0x9F else 0xBF) (n - 0xE0)
  else if n < 0xF5 then
    .start 2 (if n = 0xF0 then 0x90 else 0x80) (if n = 0xF4 then 0x8F else 0xBF) (n - 0xF0)
  else .none

/-- Read a byte where a character starts: the entries it completes and what comes next. -/
def begin (b : UInt8) : List (Option Char) × Expect :=
  match lead b with
  | .whole c => ([some c], .first)
  | .start left low high value => ([], .more left low high value)
  | .none => ([none], .first)

def step : Expect → UInt8 → List (Option Char) × Expect
  | .first, b => begin b
  | .more left low high value, b =>
      if low ≤ b && b ≤ high then
        let value := value * 64 + (b.toNat - 0x80)
        match left with
        | 0 => ([some (Char.ofNat value)], .first)
        | left + 1 => ([], .more left 0x80 0xBF value)
      else
        let (entries, e) := begin b
        (none :: entries, e)

/-- The entries that the bytes complete, from a given expectation on. -/
def unitsFrom : Expect → List UInt8 → List (Option Char)
  | .first, [] => []
  | .more .., [] => [none]
  | e, b :: bs => (step e b).1 ++ unitsFrom (step e b).2 bs

/-- Characters and ill-formed pieces of a byte sequence, in order. -/
def units (bs : List UInt8) : List (Option Char) := unitsFrom .first bs

/-- Decode, with U+FFFD in place of each ill-formed piece. -/
def decodeLossy (bs : List UInt8) : String :=
  String.ofList ((units bs).map fun u => u.getD '\uFFFD')

def decode? (bs : List UInt8) : Option String :=
  let us := units bs
  if us.all Option.isSome then some (String.ofList (us.filterMap id)) else none

end StatusBoard.Text.Utf8
