import StatusBoard.Text.Alphanumeric
import StatusBoard.Text.Pattern.Bracket

/-!
Patterns: which texts are regular expressions.

A pattern is read construct by construct.  What has to be kept in mind in between is how the
pattern is to be read, which groups and sets of characters are open, and whether there is
something that could be repeated.  A pattern here holds no closing brace, so repetition can only
be asked for by signs.
-/

namespace StatusBoard.Text.Pattern

/-- How far a pattern has been read. -/
structure State where
  flags : Flags
  /-- How the pattern is read again after each of the open groups, the innermost first. -/
  groups : List Flags
  /-- The names of groups so far. -/
  names : List String
  /-- Whether a construct that can be repeated has just been read. -/
  canRepeat : Bool
  /-- The open sets of characters, the innermost first. -/
  sets : List Bracket
  deriving DecidableEq, Repr

namespace State

def start : State := ⟨.initial, [], [], false, []⟩

def repeatable (s : State) : State := { s with canRepeat := true }

/-- Open a group that is read in a way of its own. -/
def openGroup (s : State) (inside : Flags) : State :=
  { s with flags := inside, groups := s.flags :: s.groups, canRepeat := false }

def openNamed (s : State) (name : String) : Option State :=
  let isStart (c : Char) : Bool := c = '_' || (isAlphanumeric c && !c.isDigit)
  let isInside (c : Char) : Bool :=
    c = '_' || c = '.' || c = '[' || c = ']' || isAlphanumeric c
  match name.toList with
  | [] => none
  | c :: cs =>
      if isStart c && cs.all isInside && !s.names.contains name then
        some { s.openGroup s.flags with names := name :: s.names }
      else none

def closeGroup (s : State) : Option State :=
  match s.groups with
  | [] => none
  | f :: rest => some { s with flags := f, groups := rest, canRepeat := true }

def closeSet (s : State) : Option State :=
  match s.sets with
  | [] => none
  | b :: outer =>
      if b.closed && !s.flags.isUnicode then none
      else match outer with
        | [] => some { s with sets := [], canRepeat := true }
        | o :: rest => some { s with sets := o.add b.closed :: rest }

def changeSet (s : State) (f : Bracket → Bracket) : State :=
  { s with sets := match s.sets with
    | [] => []
    | b :: outer => f b :: outer }

def isComplete (s : State) : Bool := s.groups = [] && s.sets = []

end State

def Flags.change (f : Flags) (isOn : Bool) : Char → Option Flags
  | 'i' => some { f with isCaseless := isOn }
  | 'u' => some { f with isUnicode := isOn }
  | 'x' => some { f with isSpaced := isOn }
  | 'm' | 's' | 'U' | 'R' => some f
  | _ => none

/-- Read flags up to a colon or a closing parenthesis.  Each flag is given once; those after a
dash are switched off.  Also the letters that have been read, the last first, and what follows. -/
def readFlags (f : Flags) (seen : List Char) : List Char → Option (Flags × List Char × List Char)
  | [] => none
  | c :: rest =>
      if c = ':' || c = ')' then some (f, seen, c :: rest)
      else if seen.contains c then none
      else if c = '-' then readFlags f (c :: seen) rest
      else match f.change (!seen.contains '-') c with
        | some f => readFlags f (c :: seen) rest
        | none => none

/-- Read what follows an opening parenthesis.  Looking ahead or behind is not possible. -/
def readGroup (s : State) (cs : List Char) : Option (State × List Char) :=
  let named (cs : List Char) : Option (State × List Char) :=
    match cs.dropWhile (· ≠ '>') with
    | _ :: rest => (s.openNamed (String.ofList (cs.takeWhile (· ≠ '>')))).map (·, rest)
    | [] => none
  match s.flags.advance cs with
  | '?' :: '<' :: '!' :: _ | '?' :: '<' :: '=' :: _ => none
  | '?' :: 'P' :: '<' :: rest | '?' :: '<' :: rest => named rest
  | '?' :: rest =>
      match readFlags s.flags [] rest with
      | some (_, '-' :: _, _) | some (_, [], ')' :: _) => none
      | some (f, _, ':' :: rest) => some (s.openGroup f, rest)
      | some (f, _, _ :: rest) => some ({ s with flags := f, canRepeat := false }, rest)
      | _ => none
  | rest => some (s.openGroup s.flags, rest)

def stepInSet (s : State) : List Char → Option (State × List Char)
  | '[' :: rest =>
      match readNamedSet rest with
      | some (isNegated, rest) =>
          if (Atom.char 'a').isMember s.flags then some (s.changeSet (·.add isNegated), rest) else none
      | none => (Bracket.readStart s.flags rest).map fun (b, rest) =>
          ({ s with sets := b :: s.sets }, rest)
  | ']' :: rest => s.closeSet.map (·, rest)
  | '&' :: '&' :: rest => some (s.changeSet (·.operate .meet), rest)
  | '-' :: '-' :: rest => some (s.changeSet (·.operate .difference), rest)
  | '~' :: '~' :: rest => some (s.changeSet (·.operate .symmetricDifference), rest)
  | cs => (readMembers s.flags cs).map (s, ·)

def stepOutside (s : State) : List Char → Option (State × List Char)
  | '(' :: rest => readGroup s rest
  | ')' :: rest => s.closeGroup.map (·, rest)
  | '|' :: rest => some ({ s with canRepeat := false }, rest)
  | '[' :: rest => (Bracket.readStart s.flags rest).map fun (b, rest) => ({ s with sets := [b] }, rest)
  | '.' :: rest => if s.flags.isUnicode then some (s.repeatable, rest) else none
  | '^' :: rest | '$' :: rest => some (s.repeatable, rest)
  | '\x7b' :: _ => none
  | '?' :: rest | '*' :: rest | '+' :: rest =>
      if s.canRepeat then some (s, match rest with
        | '?' :: r => r
        | r => r)
      else none
  | cs => (readAtom s.flags cs).bind fun (a, rest) =>
      if a.isAllowed s.flags then some (s.repeatable, rest) else none

def step (s : State) (cs : List Char) : Option (State × List Char) :=
  if s.sets = [] then stepOutside s cs else stepInSet s cs

/-- Read the rest of a pattern of at most `fuel` constructs. -/
def run : Nat → State → List Char → Option State
  | fuel, s, cs =>
      match fuel, s.flags.advance cs with
      | _, [] => some s
      | 0, _ => none
      | fuel + 1, cs => (step s cs).bind fun (s, rest) => run fuel s rest

/-- Whether characters are a pattern.  There are no more constructs than characters. -/
def isWellFormed (cs : List Char) : Bool := (run cs.length .start cs).any State.isComplete

example : isWellFormed "(?P<a>[^b-d]+?)*".toList = true := by decide +kernel
example : isWellFormed "a(b".toList = false := by decide +kernel

end StatusBoard.Text.Pattern
