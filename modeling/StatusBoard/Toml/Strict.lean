import StatusBoard.Toml.Reader

/-!
Which documents can be kept whole in memory.

A table may stand for a date: it does if its first key is the one that marks dates.  The text
under this key then has to be a date, and the other keys of the table do not count.
-/

namespace StatusBoard.Toml

/-- The key of a table that stands for a date. -/
def dateKey : String := "$__toml_private_datetime"

/-- Read a time of day, which may be in the hour after midnight, and return what follows it. -/
def readLateTime? (cs : List Char) : Option (List Char) :=
  match readPair? cs with
  | some (hour, minute, rest) =>
      if hour ≤ 24 ∧ minute < 60 then readSeconds? rest else none
  | none => none

/-- Whether a text is a distance from universal time of at most a day. -/
def isWideOffset : List Char → Bool
  | [] | ['Z'] | ['z'] => true
  | sign :: rest =>
      (sign = '+' || sign = '-') &&
        match readPair? rest with
        | some (hours, minutes, []) => hours * 60 + minutes ≤ 24 * 60
        | _ => false

/-- Whether a text is a date as a table may hold it. -/
def isKeptDate (cs : List Char) : Bool :=
  if cs[2]? = some ':' then readLateTime? cs = some []
  else match readDay? cs with
    | some [] => true
    | some (mark :: time) =>
        (mark = 'T' || mark = 't' || mark = ' ') && (readLateTime? time).any isWideOffset
    | none => false

/-- Whether a value is the text of a date. -/
def Value.isDateText : Value → Bool
  | .text t => isKeptDate t.toList
  | _ => false

mutual

/-- Whether all tables in a value that stand for dates hold one. -/
def Value.isSound : Value → Bool
  | .array items => areSound items
  | .table _ entries => isSoundTable entries
  | .tables items => areSoundTables items
  | _ => true

def areSound : List Value → Bool
  | [] => true
  | v :: rest => v.isSound && areSound rest

def isSoundTable : List (String × Value) → Bool
  | [] => true
  | (name, v) :: rest =>
      if name = dateKey then v.isDateText else v.isSound && areSoundEntries rest

def areSoundEntries : List (String × Value) → Bool
  | [] => true
  | (_, v) :: rest => v.isSound && areSoundEntries rest

def areSoundTables : List (List (String × Value)) → Bool
  | [] => true
  | t :: rest => isSoundTable t && areSoundTables rest

end

/-- Read a document that is to be kept whole. -/
def readStrict? (document : String) : Option Table :=
  (read? document).bind fun t => if isSoundTable t then some t else none

end StatusBoard.Toml
