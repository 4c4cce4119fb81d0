import StatusBoard.Fault
import StatusBoard.Log.Event
import StatusBoard.Text.Alphanumeric
import StatusBoard.Text.Numeral
import StatusBoard.Text.Pattern
import StatusBoard.Text.Quoted

/-!
Which events are logged.

A filter is a list of directives with commas between them.  A directive is a level, a target, or a
target and a level, `target=level`; the target may be followed by the name of a span and by names
of fields in brackets, `target[span{field}]=level`.  Of the directives that apply to an event the
most specific one decides.
-/

namespace StatusBoard.Log

open Text

/-- The least grave level that is let through; `none` if no event is. -/
abbrev Threshold : Type := Option Level

/-- One directive of a filter. -/
structure Directive where
  threshold : Threshold
  target : Option String
  span : Option String
  /-- Names of fields, and whether a value is asked for. -/
  fields : List (String × Bool)
  deriving DecidableEq, Repr

namespace Threshold

def ofNumber? : Nat → Option Threshold
  | 0 => some none
  | 1 => some (some .error)
  | 2 => some (some .warn)
  | 3 => some (some .info)
  | 4 => some (some .debug)
  | 5 => some (some .trace)
  | _ => none

/-- The names of the thresholds; nothing at all stands for errors. -/
def names : List (String × Threshold) :=
  [("", some .error), ("error", some .error), ("warn", some .warn), ("info", some .info),
    ("debug", some .debug), ("trace", some .trace), ("off", none)]

/-- Read a threshold, given by its number or by its name in letters of either case. -/
def read? (cs : List Char) : Option Threshold :=
  match readNat 0xFFFFFFFFFFFFFFFF (String.ofList cs) with
  | .ok n => ofNumber? n
  | .error _ => List.lookup (String.ofList (cs.map Char.toLower)) names

end Threshold

namespace Directive

def everything : Directive := ⟨some .trace, none, none, []⟩

def isInitial (c : Char) : Bool := isAlphanumeric c || c = '-' || c = ':' || c = '_'

/-- The part of a directive that is being read, and where it starts. -/
inductive Stage
  | start
  | name (start : Nat)
  | span (start : Nat)
  | field (start : Nat)
  | afterFields
  | afterSpan
  | level (start : Nat)
  deriving DecidableEq, Repr

def slice (text : List Char) (start stop : Nat) : List Char := (text.drop start).take (stop - start)

/-- Whether a field can be compared with a value: with a number, or with the texts of a pattern.
What follows a second equals sign does not count. -/
def isComparable (value : List Char) : Bool :=
  let value := value.takeWhile (· ≠ '=')
  isDecimal value || Pattern.isWellFormed value

/-- A field that is asked for, perhaps with a value. -/
def readField (cs : List Char) : Option (String × Bool) :=
  let name := String.ofList (cs.takeWhile (· ≠ '='))
  match cs, cs.dropWhile (· ≠ '=') with
  | [], _ => none
  | _, [] => some (name, false)
  | _, _ :: value => if isComparable value then some (name, true) else none

def step (text : List Char) (d : Directive) (i : Nat) (c : Char) : Stage → Option (Directive × Stage)
  | .start =>
      if c = '[' then some (d, .span (i + 1))
      else if isInitial c then some (d, .name i)
      else none
  | .name s =>
      if c = '=' then
        some ({ d with target := some (String.ofList (slice text s i)) }, .level (i + 1))
      else if c = '[' then
        some ({ d with target := some (String.ofList (slice text s i)) }, .span (i + 1))
      else some (d, .name s)
  | .span s =>
      let name := slice text s i
      if c = ']' then some ({ d with span := some (String.ofList name) }, .afterSpan)
      else if c = '\x7b' then
        some ({ d with span := if name = [] then none else some (String.ofList name) },
          .field (i + 1))
      else some (d, .span s)
  | .field s =>
      if c = '\x7d' then
        (readField (slice text s i)).map fun f =>
          ({ d with fields := d.fields ++ [f] }, .afterFields)
      else some (d, .field s)
  | .afterFields => if c = ']' then some (d, .afterSpan) else none
  | .afterSpan => if c = '=' then some (d, .level (i + 1)) else none
  | .level s => some (d, .level s)

def scan (text : List Char) (d : Directive) (i : Nat) (stage : Stage) :
    List Char → Option (Directive × Stage)
  | [] => some (d, stage)
  | c :: rest =>
      match step text d i c stage with
      | some (d, stage) => scan text d (i + 1) stage rest
      | none => none

def finish (text : List Char) (d : Directive) : Stage → Option Directive
  | .name s =>
      match Threshold.read? (text.drop s) with
      | some t => some { d with threshold := t }
      | none => some { d with target := some (String.ofList (text.drop s)) }
  | .level s =>
      if text.drop s = [] then some d
      else (Threshold.read? (text.drop s)).map ({ d with threshold := · })
  | .afterSpan => some d
  | _ => none

/-- Read a directive.  White space at its ends does not count while its parts are told apart, but
the parts are then cut out of the text as it was written. -/
def read? (text : List Char) : Option Directive :=
  (scan text everything 0 .start (trimmed text)).bind fun (d, stage) => finish text d stage

/-- Whether a directive can be judged by what an event itself says. -/
def isStatic (d : Directive) : Bool := d.span.isNone && d.fields.all fun f => !f.2

/-- Whether a directive applies to an event: to one of the target or of a target inside it, that
has the fields. -/
def appliesTo (d : Directive) (e : Event) : Bool :=
  (match d.target with
    | some t => t.toList.isPrefixOf e.target.toList
    | none => true) &&
  d.fields.all fun f => f.1 = "message" || e.fields.any fun g => g.1 = f.1

/-- The order of directives from the least to the most specific: the length of the target counts
first, then the number of fields.  That two directives have the same place only if they have the
same target and fields is settled by the order of their names. -/
def compare (d e : Directive) : Ordering :=
  let size (d : Directive) : Nat := (d.target.map String.utf8ByteSize).elim 0 (· + 1)
  let names (d : Directive) : List String := d.fields.map Prod.fst
  (Ord.compare (size d) (size e)).then <|
    (Ord.compare d.fields.length e.fields.length).then <|
    (Ord.compare (d.target.getD "") (e.target.getD "")).then <|
    Ord.compare (names d) (names e)

end Directive

/-- Directives, in the order in which they were written. -/
structure Filter where
  directives : List Directive
  deriving DecidableEq, Repr

namespace Filter

/-- Read a filter; empty places between commas do not count. -/
def read? (t : String) : Option Filter :=
  (((split (· = ',') t.toList).filter (· ≠ [])).mapM Directive.read?).map Filter.mk

def load (t : String) : Except Fault Filter :=
  match read? t with
  | some f => .ok f
  | none => .error (.invalidConfig ("log.filter " ++ quoted t))

/-- The directives that are judged; a filter without any directive lets errors through. -/
def effective (f : Filter) : List Directive :=
  if f.directives = [] then [{ Directive.everything with threshold := some .error }]
  else f.directives.filter Directive.isStatic

/-- The directive that decides about an event: the most specific that applies, and the last of
those that have the same place. -/
def decider (f : Filter) (e : Event) : Option Directive :=
  f.effective.foldl
    (fun best d =>
      if d.appliesTo e then
        match best with
        | none => some d
        | some b => if (b.compare d).isLE then some d else some b
      else best)
    none

def accepts (f : Filter) (e : Event) : Bool :=
  match f.decider e with
  | some ⟨some least, _, _, _⟩ => least.rank ≤ e.level.rank
  | _ => false

/-- The filter that lets information and anything graver through. -/
def info : Filter := ⟨[{ Directive.everything with threshold := some .info }]⟩

end Filter

end StatusBoard.Log
