import StatusBoard.Text.Blank
import StatusBoard.Text.Magnitude
import StatusBoard.Toml.Value

/-!
Numbers, truth values and dates of a TOML document.

All of them are written with letters, digits and a few signs, and nothing that may follow them is.
So the longest run of such characters is read first and then taken for what it is.
-/

namespace StatusBoard.Toml

open StatusBoard.Text

/-- A character that numbers, truth values and dates are written with. -/
def isScalarChar (c : Char) : Bool :=
  c.isAlphanum || c = '+' || c = '-' || c = '_' || c = '.' || c = ':'

/-- Digits in which single underscores may separate groups, without the underscores. -/
def ungroup? (isDigit : Char → Bool) (cs : List Char) : Option (List Char) :=
  let groups := split (· = '_') cs
  if groups.all fun g => g ≠ [] && g.all isDigit then some groups.flatten else none

def maxAbsolute : Nat := 0x8000000000000000

/-- The value of digits in a base, if it is no larger than any integer. -/
def digitsValue? (base : Nat) (cs : List Char) : Option Nat :=
  cs.foldlM
    (fun value c =>
      let next := value * base + (hexDigit? c).getD 0
      if next ≤ maxAbsolute then some next else none)
    0

/-- Whether a character is a digit of a base. -/
def isDigitOf (base : Nat) (c : Char) : Bool := (hexDigit? c).any (· < base)

/-- Decimal digits of a whole number: grouped, and without a zero in front of others. -/
def readWhole? (cs : List Char) : Option (List Char) :=
  match ungroup? (isDigitOf 10) cs with
  | some ('0' :: _ :: _) => none
  | digits => digits

/-- Split off a sign; the first part tells whether it is a minus. -/
def readSign : List Char → Bool × List Char
  | '+' :: rest => (false, rest)
  | '-' :: rest => (true, rest)
  | cs => (false, cs)

def toInteger? (n : Int) : Option Int :=
  if -(maxAbsolute : Int) ≤ n ∧ n < maxAbsolute then some n else none

def readBase? (base : Nat) (cs : List Char) : Option Int :=
  (ungroup? (isDigitOf base) cs).bind fun digits =>
    (digitsValue? base digits).bind fun n => toInteger? n

/-- Read an integer: decimal with an optional sign, or without a sign in another base. -/
def readInteger? : List Char → Option Int
  | '0' :: 'x' :: cs => readBase? 16 cs
  | '0' :: 'o' :: cs => readBase? 8 cs
  | '0' :: 'b' :: cs => readBase? 2 cs
  | cs =>
      let (isNegative, cs) := readSign cs
      (readWhole? cs).bind fun digits =>
        (digitsValue? 10 digits).bind fun n => toInteger? (if isNegative then -(n : Int) else n)

/-- Whether a text is an exponent after its mark. -/
def isExponent (cs : List Char) : Bool := (ungroup? (isDigitOf 10) (readSign cs).2).isSome

/-- Whether a text is a whole number, perhaps with a fraction. -/
def isMantissa (cs : List Char) (needsFraction : Bool) : Bool :=
  match cs.dropWhile (· ≠ '.') with
  | [] => !needsFraction && (readWhole? cs).isSome
  | _ :: fraction =>
      (readWhole? (cs.takeWhile (· ≠ '.'))).isSome && (ungroup? (isDigitOf 10) fraction).isSome

/-- Whether a text is a float.  One that would be positive infinity is not, unless it says so. -/
def isFloat (cs : List Char) : Bool :=
  let (isNegative, unsigned) := readSign cs
  if unsigned = ['i', 'n', 'f'] || unsigned = ['n', 'a', 'n'] then true
  else
    let isMark := fun c : Char => c = 'e' || c = 'E'
    let shape := match unsigned.dropWhile (!isMark ·) with
      | [] => isMantissa unsigned true
      | _ :: exponent => isMantissa (unsigned.takeWhile (!isMark ·)) false && isExponent exponent
    shape && (isNegative || !Magnitude.isTooLarge (unsigned.filter (· ≠ '_')))

def twoDigits? (a b : Char) : Option Nat :=
  match digit? a, digit? b with
  | some a, some b => some (a * 10 + b)
  | _, _ => none

def daysOfMonth (year month : Nat) : Nat :=
  if month = 2 then
    if year % 4 = 0 ∧ (year % 100 ≠ 0 ∨ year % 400 = 0) then 29 else 28
  else if month = 4 ∨ month = 6 ∨ month = 9 ∨ month = 11 then 30
  else 31

/-- Read a day of the calendar, and return what follows it. -/
def readDay? : List Char → Option (List Char)
  | y₁ :: y₂ :: y₃ :: y₄ :: '-' :: m₁ :: m₂ :: '-' :: d₁ :: d₂ :: rest =>
      match twoDigits? y₁ y₂, twoDigits? y₃ y₄, twoDigits? m₁ m₂, twoDigits? d₁ d₂ with
      | some century, some year, some month, some day =>
          if 1 ≤ month ∧ month ≤ 12 ∧ 1 ≤ day ∧ day ≤ daysOfMonth (century * 100 + year) month then
            some rest
          else none
      | _, _, _, _ => none
  | _ => none

/-- Read two numbers of two digits with a colon between them, and return what follows them. -/
def readPair? : List Char → Option (Nat × Nat × List Char)
  | h₁ :: h₂ :: ':' :: m₁ :: m₂ :: rest =>
      match twoDigits? h₁ h₂, twoDigits? m₁ m₂ with
      | some hour, some minute => some (hour, minute, rest)
      | _, _ => none
  | _ => none

/-- Read hours and minutes, and return what follows them. -/
def readMinutes? (cs : List Char) : Option (List Char) :=
  match readPair? cs with
  | some (hour, minute, rest) => if hour < 24 ∧ minute < 60 then some rest else none
  | none => none

/-- Read a fraction of a second, if there is one, and return what follows it. -/
def readFraction? : List Char → Option (List Char)
  | '.' :: fraction =>
      if (fraction.head?.bind digit?).isSome then
        some (fraction.dropWhile fun c => (digit? c).isSome)
      else none
  | rest => some rest

/-- Read seconds after their colon, and return what follows them. -/
def readSeconds? : List Char → Option (List Char)
  | ':' :: s₁ :: s₂ :: rest =>
      match twoDigits? s₁ s₂ with
      | some second => if second ≤ 60 then readFraction? rest else none
      | none => none
  | _ => none

/-- Read a time of day with its seconds, and return what follows it. -/
def readTime? (cs : List Char) : Option (List Char) := (readMinutes? cs).bind readSeconds?

/-- Whether a text is a distance from universal time. -/
def isOffset : List Char → Bool
  | ['Z'] | ['z'] => true
  | sign :: rest => (sign = '+' || sign = '-') && readMinutes? rest = some []
  | [] => false

/-- Whether a text is a time of day that may have an offset. -/
def isOffsetTime (cs : List Char) : Bool :=
  match readTime? cs with
  | some [] => true
  | some rest => isOffset rest
  | none => false

/-- Whether a text is a day, a time of day, or both with a mark between them. -/
def isDate (cs : List Char) : Bool :=
  match readDay? cs with
  | some [] => true
  | some (mark :: time) => (mark = 'T' || mark = 't' || mark = ' ') && isOffsetTime time
  | none => readTime? cs = some []

def scalar? (cs : List Char) : Option Value :=
  if cs = ['t', 'r', 'u', 'e'] then some (.boolean true)
  else if cs = ['f', 'a', 'l', 's', 'e'] then some (.boolean false)
  else match readInteger? cs with
    | some n => some (.integer n)
    | none =>
        if isFloat cs then some (.float (String.ofList cs))
        else if isDate cs then some (.date (String.ofList cs))
        else none

/-- Split off the longest run of scalar characters; after a day a blank and a time of day belong
to it. -/
def scanRun (cs : List Char) : List Char × List Char :=
  let run := cs.takeWhile isScalarChar
  let rest := cs.dropWhile isScalarChar
  match rest with
  | ' ' :: more =>
      let time := more.takeWhile isScalarChar
      if readDay? run = some [] && isOffsetTime time then
        (run ++ ' ' :: time, more.dropWhile isScalarChar)
      else (run, rest)
  | _ => (run, rest)

/-- Read a number, a truth value or a date. -/
def scanScalar (cs : List Char) : Option (Value × List Char) :=
  let (run, rest) := scanRun cs
  if run = [] then none else (scalar? run).map (·, rest)

theorem append_scanRun (cs : List Char) : (scanRun cs).1 ++ (scanRun cs).2 = cs := by
  have hcs := List.takeWhile_append_dropWhile (p := isScalarChar) (l := cs)
  unfold scanRun
  simp only
  split
  · rename_i more hrest
    split
    · have := List.takeWhile_append_dropWhile (p := isScalarChar) (l := more)
      simp only [List.append_assoc, List.cons_append, this]
      rw [← hrest]
      exact hcs
    · exact hcs
  · exact hcs

theorem length_of_scanScalar {cs r : List Char} {v : Value} (h : scanScalar cs = some (v, r)) :
    r.length < cs.length := by
  have hsplit := congrArg List.length (append_scanRun cs)
  simp only [List.length_append] at hsplit
  simp only [scanScalar] at h
  split at h
  · simp at h
  · rename_i hne
    obtain ⟨v', -, heq⟩ := Option.map_eq_some_iff.1 h
    simp only [Prod.mk.injEq] at heq
    have := List.length_pos_iff.2 hne
    rw [← heq.2]
    omega

end StatusBoard.Toml
