/-!
The values of a TOML document.

Tables remember how they came to be, because that decides what may still be added to them.  Floats
and dates keep their spelling only: nothing here computes with them.
-/

namespace StatusBoard.Toml

/-- How a table came to be. -/
inductive Origin
  /-- It was written between braces. -/
  | inline
  /-- It has a header of its own. -/
  | header
  /-- It was named on the way to a table further inside. -/
  | implied
  /-- It was named by a dotted key. -/
  | dotted
  deriving DecidableEq, Repr

/-- A value of a document. -/
inductive Value
  | text (t : String)
  | integer (n : Int)
  | float (lexeme : String)
  | boolean (b : Bool)
  | date (lexeme : String)
  | array (items : List Value)
  | table (origin : Origin) (entries : List (String × Value))
  /-- Tables that share a name, each with a header of its own. -/
  | tables (items : List (List (String × Value)))
  deriving Inhabited

/-- The entries of a table in the order in which they were added. -/
abbrev Table : Type := List (String × Value)

def Table.get? (t : Table) (name : String) : Option Value := List.lookup name t

end StatusBoard.Toml
