import StatusBoard.Text.Blank

/-!
Reading numbers and truth values that a user wrote, with the reason when that fails.
-/

namespace StatusBoard.Text

/-- Why a text is no number of the wanted size. -/
inductive NumeralError
  | empty
  | invalidDigit
  | tooLarge
  | tooSmall
  deriving DecidableEq, Repr

def NumeralError.message : NumeralError → String
  | .empty => "cannot parse integer from empty string"
  | .invalidDigit => "invalid digit found in string"
  | .tooLarge => "number too large to fit in target type"
  | .tooSmall => "number too small to fit in target type"

def digit? (c : Char) : Option Nat :=
  if '0' ≤ c ∧ c ≤ '9' then some (c.toNat - '0'.toNat) else none

def hexDigit? (c : Char) : Option Nat :=
  if '0' ≤ c ∧ c ≤ '9' then some (c.toNat - '0'.toNat)
  else if 'a' ≤ c ∧ c ≤ 'f' then some (c.toNat - 'a'.toNat + 10)
  else if 'A' ≤ c ∧ c ≤ 'F' then some (c.toNat - 'A'.toNat + 10)
  else none

/-- Append decimal digits to a number that has to stay at or below `max`.  The first fault from
the left decides the reason. -/
def readDigits (max : Nat) (tooBig : NumeralError) (cs : List Char) :
    Except NumeralError Nat :=
  cs.foldlM
    (fun value c => match digit? c with
      | none => .error .invalidDigit
      | some d => if value * 10 + d ≤ max then .ok (value * 10 + d) else .error tooBig)
    0

/-- Read a natural number of at most `max`, with an optional plus sign. -/
def readNat (max : Nat) (t : String) : Except NumeralError Nat :=
  match t.toList with
  | [] => .error .empty
  | ['+'] => .error .invalidDigit
  | '+' :: cs => readDigits max .tooLarge cs
  | cs => readDigits max .tooLarge cs

/-- Read an integer between `-max - 1` and `max`, with an optional sign. -/
def readInt (max : Nat) (t : String) : Except NumeralError Int :=
  match t.toList with
  | [] => .error .empty
  | ['+'] | ['-'] => .error .invalidDigit
  | '+' :: cs => (readDigits max .tooLarge cs).map Int.ofNat
  | '-' :: cs => (readDigits (max + 1) .tooSmall cs).map fun n => -Int.ofNat n
  | cs => (readDigits max .tooLarge cs).map Int.ofNat

def dropSign : List Char → List Char
  | '+' :: cs | '-' :: cs => cs
  | cs => cs

/-- Whether characters are a number with an optional fraction and an optional exponent, or stand
for infinity or for no number. -/
def isDecimal (cs : List Char) : Bool :=
  let unsigned := dropSign cs
  let isMark := fun c : Char => c = 'e' || c = 'E'
  let mantissa := unsigned.takeWhile (!isMark ·)
  let digits := mantissa.filter (· ≠ '.')
  let isNumber := digits ≠ [] && digits.all Char.isDigit && mantissa.count '.' ≤ 1 &&
    match unsigned.dropWhile (!isMark ·) with
    | [] => true
    | _ :: exponent => dropSign exponent ≠ [] && (dropSign exponent).all Char.isDigit
  isNumber ||
    ["inf", "infinity", "nan"].contains (String.ofList (unsigned.map Char.toLower))

def readBool (t : String) : Option Bool :=
  if t = "true" then some true else if t = "false" then some false else none

end StatusBoard.Text
