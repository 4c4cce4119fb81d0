import StatusBoard.Toml.Value

/-!
Building the tables of a TOML document.

A name is given once.  Tables on the way to it come into being as they are named, and how one came
to be decides what may be added to it later: a table between braces is closed, one that has a
header is not opened again, and dotted keys only extend tables that dotted keys made.
-/

namespace StatusBoard.Toml

/-- The path to a value: the names of the tables on the way, and its own. -/
structure Key where
  path : List String
  name : String
  deriving DecidableEq, Repr

namespace Key

def length (k : Key) : Nat := k.path.length + 1

end Key

namespace Table

/-- Replace the value under a name, or add one after the others. -/
def put (name : String) (v : Value) : Table → Table
  | [] => [(name, v)]
  | e :: rest => if e.1 = name then (name, v) :: rest else e :: put name v rest

def changeLast (f : Table → Option Table) : List Table → Option (List Table)
  | [] => none
  | [t] => (f t).map ([·])
  | t :: rest => (changeLast f rest).map (t :: ·)

def define (name : String) (v : Value) (t : Table) : Option Table :=
  if (t.get? name).isSome then none else some (t.put name v)

/-- Follow a dotted key and define its value where it ends.  The table in which it ends is new or
has been made by a dotted key too. -/
def assignInside (name : String) (v : Value) : List String → Table → Option Table
  | [], t => t.define name v
  | step :: path, t =>
      match t.get? step with
      | none => do
          let inner ← assignInside name v path []
          return t.put step (.table .dotted inner)
      | some (.table .dotted inner) => do
          let inner ← assignInside name v path inner
          return t.put step (.table .dotted inner)
      | some (.table .implied inner) =>
          if path = [] then none
          else do
            let inner ← assignInside name v path inner
            return t.put step (.table .implied inner)
      | some (.tables items) =>
          if path = [] then none
          else do
            let items ← changeLast (assignInside name v path) items
            return t.put step (.tables items)
      | some _ => none

/-- Give the value of a key in a table. -/
def assign (k : Key) (v : Value) (t : Table) : Option Table := assignInside k.name v k.path t

/-- Change the table at the end of a path of headers.  Tables that are missing on the way are
implied; of tables that share a name the last one is meant. -/
def changeAt (f : Table → Option Table) : List String → Table → Option Table
  | [], t => f t
  | step :: path, t =>
      match t.get? step with
      | none => do
          let inner ← changeAt f path []
          return t.put step (.table .implied inner)
      | some (.table .inline _) => none
      | some (.table origin inner) => do
          let inner ← changeAt f path inner
          return t.put step (.table origin inner)
      | some (.tables items) => do
          let items ← changeLast (changeAt f path) items
          return t.put step (.tables items)
      | some _ => none

/-- Open the table of a header.  It is new, or it was implied. -/
def openTable (k : Key) (t : Table) : Option Table :=
  changeAt
    (fun parent => match parent.get? k.name with
      | none => some (parent.put k.name (.table .header []))
      | some (.table .implied inner) => some (parent.put k.name (.table .header inner))
      | some _ => none)
    k.path t

/-- Open one more of the tables that share a name. -/
def openItem (k : Key) (t : Table) : Option Table :=
  changeAt
    (fun parent => match parent.get? k.name with
      | none => some (parent.put k.name (.tables [[]]))
      | some (.tables items) => some (parent.put k.name (.tables (items ++ [[]])))
      | some _ => none)
    k.path t

def ofPairs (pairs : List (Key × Value)) : Option Table :=
  pairs.foldlM (fun t p => t.assign p.1 p.2) []

end Table

end StatusBoard.Toml
