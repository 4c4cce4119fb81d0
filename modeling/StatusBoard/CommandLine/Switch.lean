/-!
Switches: the words of a command line that start with dashes, and reading words as such.

A switch that takes a value takes the next word, unless that word is itself written with dashes.
The value is looked at no sooner than the next switch is met or the words end, so a word that is
not known at all is refused before a value that is malformed.
-/

namespace StatusBoard.CommandLine

/-- Why the words of a command line are not carried out. -/
inductive Refusal
  /-- Help is asked for. -/
  | help
  /-- The version is asked for. -/
  | version
  /-- There are no words that say anything. -/
  | nothingGiven
  /-- There are switches but no command. -/
  | noCommand
  | unknownCommand
  | unknownWord
  | missingValue
  | malformedValue
  /-- A switch that takes no value is given one. -/
  | needlessValue
  /-- A switch that may be given once is given again. -/
  | repeated
  deriving DecidableEq, Repr

/-- The status with which a command line ends that is not carried out. -/
def Refusal.status : Refusal → Nat
  | help | version => 0
  | _ => 2

/-- What a switch does. -/
inductive Use (σ : Type)
  /-- It asks for an answer, and nothing else is carried out. -/
  | answer (r : Refusal)
  | flag (set : σ → σ)
  /-- It takes a value, which is read as a change of the settings.  The value may be a negative
  number only if the switch says so. -/
  | value (isRepeatable takesNegative : Bool) (read : String → Except Refusal (σ → σ))

/-- A switch of settings: its name after two dashes, and perhaps an initial after one dash. -/
structure Switch (σ : Type) where
  name : String
  initial : Option Char
  use : Use σ

def Switch.lift {σ τ : Type} (change : (σ → σ) → τ → τ) (s : Switch σ) : Switch τ :=
  { s with
    use := match s.use with
      | .answer r => .answer r
      | .flag set => .flag (change set)
      | .value isRepeatable takesNegative read =>
          .value isRepeatable takesNegative fun t => (read t).map change }

/-- A word of a command line by the way it is written. -/
inductive Word
  /-- Two dashes; no switches follow. -/
  | separator
  | long (name : String) (attached : Option String)
  | short (initials : List Char)
  | plain
  deriving DecidableEq, Repr

/-- How a word is written.  A single dash is a plain word. -/
def Word.ofString (w : String) : Word :=
  match w.toList with
  | ['-', '-'] => .separator
  | '-' :: '-' :: cs =>
      .long (String.ofList (cs.takeWhile (· ≠ '=')))
        (match cs.dropWhile (· ≠ '=') with
          | [] => none
          | _ :: value => some (String.ofList value))
  | '-' :: c :: cs => .short (c :: cs)
  | _ => .plain

/-- Whether characters after a dash are a number: digits with at most one point, which is not the
first character, and at most one exponent after it, which is neither the first character nor the
last. -/
def isNumeric (cs : List Char) : Bool :=
  let isMark := fun c : Char => c = 'e' || c = 'E'
  let mantissa := cs.takeWhile (!isMark ·)
  let digits (ds : List Char) : Bool := ds.all Char.isDigit
  digits (mantissa.filter (· ≠ '.')) && mantissa.count '.' ≤ 1 && mantissa.head? ≠ some '.' &&
    match cs.dropWhile (!isMark ·) with
    | [] => true
    | _ :: exponent => mantissa ≠ [] && exponent ≠ [] && digits exponent

/-- A switch whose value has not been looked at. -/
structure Pending (σ : Type) where
  name : String
  isRepeatable : Bool
  takesNegative : Bool
  read : String → Except Refusal (σ → σ)
  /-- The value, once its word has come. -/
  value : Option String

/-- How far words have been read. -/
structure Scan (σ : Type) where
  settings : σ
  /-- Names of the switches that have been carried out. -/
  seen : List String
  pending : Option (Pending σ)
  /-- Whether two dashes have been met, after which no word is a switch. -/
  isLiteral : Bool

namespace Scan

variable {σ : Type}

def start (settings : σ) : Scan σ := ⟨settings, [], none, false⟩

/-- Carry out a change under the name of a switch. -/
def carryOut (s : Scan σ) (name : String) (isRepeatable : Bool)
    (change : Except Refusal (σ → σ)) : Except Refusal (Scan σ) :=
  if !isRepeatable && s.seen.contains name then .error .repeated
  else change.map fun f => { s with settings := f s.settings, seen := name :: s.seen }

/-- Look at the value of the switch that is pending. -/
def settle (s : Scan σ) : Except Refusal (Scan σ) :=
  match s.pending with
  | none => .ok s
  | some p =>
      match p.value with
      | none => .error .missingValue
      | some v => { s with pending := none }.carryOut p.name p.isRepeatable (p.read v)

/-- Whether the next plain word is the value of a switch. -/
def isAwaiting (s : Scan σ) : Bool := s.pending.any fun p => p.value.isNone

/-- Whether the next word is that value even if it is a negative number. -/
def isAwaitingNumber (s : Scan σ) : Bool := s.pending.any fun p => p.value.isNone && p.takesNegative

def give (s : Scan σ) (w : String) : Scan σ :=
  { s with pending := s.pending.map fun p => { p with value := some w } }

def meet (s : Scan σ) (w : Switch σ) (attached : Option String) : Except Refusal (Scan σ) :=
  match w.use with
  | .answer r => if attached.isSome then .error .needlessValue else s.settle.bind fun _ => .error r
  | .flag set =>
      if attached.isSome then .error .needlessValue
      else s.settle.bind fun s => s.carryOut w.name false (.ok set)
  | .value isRepeatable takesNegative read =>
      s.settle.bind fun s =>
        let s := { s with pending := some ⟨w.name, isRepeatable, takesNegative, read, attached⟩ }
        if attached.isSome then s.settle else .ok s

def meetInitials (switches : List (Switch σ)) (s : Scan σ) : List Char → Except Refusal (Scan σ)
  | [] => .ok s
  | c :: cs =>
      match switches.find? fun w => w.initial = some c with
      | none => .error .unknownWord
      | some w => (s.meet w none).bind fun s => meetInitials switches s cs

def step (switches : List (Switch σ)) (commands : List String) (s : Scan σ) (w : String) :
    Except Refusal (Scan σ) :=
  match Word.ofString w with
  | .separator => .ok { s with isLiteral := true }
  | .long name attached =>
      match switches.find? fun w => w.name = name with
      | none => .error .unknownWord
      | some w => s.meet w attached
  | .short cs =>
      if s.isAwaitingNumber && isNumeric cs then .ok (s.give w) else s.meetInitials switches cs
  | .plain =>
      if s.isAwaiting then .ok (s.give w)
      else .error (if commands = [] then .unknownWord else .unknownCommand)

/-- Read words up to the first command, which is returned with the words after it.  After two
dashes there are no commands either. -/
def run (switches : List (Switch σ)) (commands : List String) (s : Scan σ) :
    List String → Except Refusal (Scan σ × Option (String × List String))
  | [] => .ok (s, none)
  | w :: rest =>
      if s.isLiteral then
        .error (if commands = [] || commands.contains w then .unknownWord else .unknownCommand)
      else if !s.isAwaiting && commands.contains w then .ok (s, some (w, rest))
      else (s.step switches commands w).bind fun s => run switches commands s rest

end Scan

end StatusBoard.CommandLine
