import StatusBoard.Text.Magnitude

/-!
Telling from its digits whether a number of a document is too large to be kept.

A number is kept as the product of two floating point numbers of 64 bits: a significand, which is
a word before it is rounded, and a power of ten.  Digits for which the word has no room only count
as places.  So a number may be too large here although its exact value is not, by less than one
step.
-/

namespace StatusBoard.Json.Magnitude

open Text

def maxWord : Nat := 0xFFFFFFFFFFFFFFFF

/-- Append digits to a word while it has room for them; also the digits that are left over. -/
def fill (word : Nat) : List Nat → Nat × List Nat
  | [] => (word, [])
  | d :: ds => if word * 10 + d ≤ maxWord then fill (word * 10 + d) ds else (word, d :: ds)

/-- A number `significand * 10 ^ exponent`. -/
structure Scaled where
  significand : Nat
  exponent : Int
  deriving DecidableEq, Repr

/-- The number with the given digits before and after the point, times a power of ten. -/
def Scaled.ofDigits (whole fraction : List Nat) (power : Int) : Scaled :=
  let (word, places) := fill 0 whole
  let (significand, rest) := fill word fraction
  { significand
    exponent := places.length - (fraction.length - rest.length : Nat) + power }

/-- The absolute value of a number as it is written. -/
def Scaled.ofLexeme (cs : List Char) : Scaled :=
  let d := Text.Magnitude.Decimal.read cs
  ofDigits d.whole d.fraction d.exponent

/-- The nearest number with at most 53 binary digits before its trailing zeros; of two that are
equally near, the one whose last of these digits is even. -/
def rounded (n : Nat) : Nat :=
  let unit := Nat.pow 2 (n.log2 - 52)
  let below := n / unit
  let twice := 2 * (n % unit)
  if unit < twice ∨ (unit = twice ∧ below % 2 = 1) then (below + 1) * unit else below * unit

def maxPower : Int := 308

def Scaled.isTooLarge (s : Scaled) : Bool :=
  if s.significand = 0 || s.exponent < 0 then false
  else if maxPower < s.exponent then true
  else Text.Magnitude.bound ≤ rounded s.significand * rounded (Nat.pow 10 s.exponent.toNat)

/-- Whether the number of a lexeme is too large. -/
def isTooLarge (cs : List Char) : Bool := (Scaled.ofLexeme cs).isTooLarge

example : isTooLarge "1.7976931348623157e308".toList = false := by decide +kernel
example : isTooLarge "1.7976931348623158e308".toList = true := by decide +kernel
example : isTooLarge "0.1e309".toList = false := by decide +kernel
example : isTooLarge "-0e999999999999".toList = false := by decide +kernel

end StatusBoard.Json.Magnitude
