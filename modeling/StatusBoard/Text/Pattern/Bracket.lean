import StatusBoard.Text.Pattern.Atom

/-!
Sets of characters between brackets.

In a pattern over bytes a set must not hold a byte beyond ASCII when it is closed.  Members that
are written out are ASCII there, so of the bytes beyond ASCII a set holds either all or none, and
it is enough to keep track of which.
-/

namespace StatusBoard.Text.Pattern

/-- An operation on two sets. -/
inductive SetOp
  | meet
  | difference
  | symmetricDifference
  deriving DecidableEq, Repr

/-- Whether the outcome of an operation is beyond ASCII. -/
def SetOp.apply : SetOp → Bool → Bool → Bool
  | .meet, a, b => a && b
  | .difference, a, b => a && !b
  | .symmetricDifference, a, b => a != b

/-- A set that is being read. -/
structure Bracket where
  isNegated : Bool
  /-- The operation whose right side is being read, and whether its left side is beyond ASCII. -/
  left : Option (SetOp × Bool)
  /-- Whether what has been read since is beyond ASCII. -/
  isBeyond : Bool
  deriving DecidableEq, Repr

namespace Bracket

/-- Whether all that has been read is beyond ASCII. -/
def value (b : Bracket) : Bool :=
  match b.left with
  | some (op, left) => op.apply left b.isBeyond
  | none => b.isBeyond

/-- Read an operation; operations are carried out from the left to the right. -/
def operate (b : Bracket) (op : SetOp) : Bracket :=
  { b with left := some (op, b.value), isBeyond := false }

def add (b : Bracket) (isBeyond : Bool) : Bracket := { b with isBeyond := b.isBeyond || isBeyond }

/-- Whether the set is beyond ASCII once it is closed. -/
def closed (b : Bracket) : Bool := b.value != b.isNegated

end Bracket

/-- The sets of characters that have names of their own. -/
def setNames : List String :=
  ["alnum", "alpha", "ascii", "blank", "cntrl", "digit", "graph", "lower", "print", "punct", "space",
    "upper", "word", "xdigit"]

/-- Read a named set after its opening bracket: whether it is negated, and what follows it. -/
def readNamedSet : List Char → Option (Bool × List Char)
  | ':' :: cs =>
      let (isNegated, cs) := match cs with
        | '^' :: r => (true, r)
        | r => (false, r)
      match cs.dropWhile (· ≠ ':') with
      | ':' :: ']' :: rest =>
          if setNames.contains (String.ofList (cs.takeWhile (· ≠ ':'))) then some (isNegated, rest)
          else none
      | _ => none
  | _ => none

/-- Drop the dashes with which a set may start, and what does not count between them. -/
def dropDashes (f : Flags) (inComment : Bool) : List Char → List Char
  | [] => []
  | c :: cs =>
      if inComment then dropDashes f (c ≠ '\n') cs
      else if f.isSpaced && c = '#' then dropDashes f true cs
      else if c = '-' || (f.isSpaced && isBlank c) then dropDashes f false cs
      else c :: cs

/-- Read the start of a set after its opening bracket.  Dashes at the start are members of it, and
so is a closing bracket if it comes first. -/
def Bracket.readStart (f : Flags) (cs : List Char) : Option (Bracket × List Char) :=
  let (isNegated, cs) := match f.advance cs with
    | '^' :: r => (true, f.advance r)
    | r => (false, r)
  let (hasMember, rest) := match cs with
    | '-' :: r => (true, dropDashes f false r)
    | ']' :: r => (true, f.advance r)
    | r => (false, r)
  if rest = [] || (hasMember && !(Atom.char '-').isMember f) then none
  else some (⟨isNegated, none, false⟩, rest)

/-- Read a member or a range of members, and return what follows.  A dash before a closing bracket
or before another dash makes no range. -/
def readMembers (f : Flags) (cs : List Char) : Option (List Char) :=
  (readAtom f cs).bind fun (a, rest) =>
    let rest := f.advance rest
    let single := if rest ≠ [] && a.isMember f then some rest else none
    match rest with
    | '-' :: more =>
        let more := f.advance more
        if more.head? = some ']' || more.head? = some '-' then single
        else (readAtom f more).bind fun (b, rest) =>
          match a.code?, b.code? with
          | some low, some high =>
              if low ≤ high && a.isMember f && b.isMember f then some rest else none
          | _, _ => none
    | _ => single

end StatusBoard.Text.Pattern
