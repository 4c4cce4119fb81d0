import StatusBoard.Text.Numeral

/-!
Telling from its digits whether a decimal number is too large for a 64-bit floating point number.

The largest such number is `2 ^ 1024 - 2 ^ 971`.  What lies at least half a step of `2 ^ 971`
above it would be rounded to infinity.  That bound is a whole number, so of a number with as many
digits before its point as the bound has, only these digits count.
-/

namespace StatusBoard.Text.Magnitude

/-- The digits of a text; other characters are passed over. -/
def digits (cs : List Char) : List Nat := cs.filterMap digit?

def value (ds : List Nat) : Nat := ds.foldl (fun n d => n * 10 + d) 0

/-- The largest exponent that is told apart from larger ones. -/
def maxExponent : Nat := 1000000000000

/-- The value of the digits of an exponent, or a number above `maxExponent` if it is larger. -/
def exponentValue (ds : List Nat) : Nat :=
  ds.foldl (fun n d => if maxExponent < n then n else n * 10 + d) 0

/-- A number as it is written: the digits before its point, those after it, and its exponent. -/
structure Decimal where
  whole : List Nat
  fraction : List Nat
  exponent : Int
  deriving DecidableEq, Repr

/-- The absolute value of a number with an optional fraction and an optional exponent. -/
def Decimal.read (cs : List Char) : Decimal :=
  let isMark := fun c : Char => c = 'e' || c = 'E'
  let front := cs.takeWhile (!isMark ·)
  let back := (cs.dropWhile (!isMark ·)).drop 1
  let power : Int := exponentValue (digits back)
  { whole := digits (front.takeWhile (· ≠ '.'))
    fraction := digits (front.dropWhile (· ≠ '.'))
    exponent := if back.head? = some '-' then -power else power }

def bound : Nat := Nat.pow 2 1024 - Nat.pow 2 970

def boundLength : Nat := 309

def Decimal.isTooLarge (d : Decimal) : Bool :=
  match (d.whole ++ d.fraction).dropWhile (· = 0) with
  | [] => false
  | ds =>
      let length : Int := ds.length - d.fraction.length + d.exponent
      if length = boundLength then
        bound ≤ value ((ds ++ List.replicate boundLength 0).take boundLength)
      else boundLength < length

/-- Whether the number of a text is too large. -/
def isTooLarge (cs : List Char) : Bool := (Decimal.read cs).isTooLarge

example : isTooLarge "1.7976931348623157e308".toList = false := by decide +kernel
example : isTooLarge "-1e309".toList = true := by decide +kernel
example : isTooLarge "0e999999999999".toList = false := by decide +kernel

end StatusBoard.Text.Magnitude
