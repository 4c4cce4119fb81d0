/-!
JSON values, in as much detail as readers of documents need.

Numbers are kept as they are written.  A string may escape half of a surrogate pair without the
other half; such a string is no text, and is told apart by `none`.
-/

namespace StatusBoard

/-- A JSON value; the members of an object keep their order and may repeat a name. -/
inductive Json where
  | null
  | bool (b : Bool)
  | number (lexeme : String)
  | text (t : Option String)
  | array (items : List Json)
  | object (members : List (Option String × Json))
  deriving Inhabited

namespace Json

def ofText (t : String) : Json := .text (some t)

def ofInt (n : Int) : Json := .number (toString n)

def ofNat (n : Nat) : Json := .number (toString n)

def ofTexts (ts : List String) : Json := .array (ts.map ofText)

def ofOption {α : Type} (f : α → Json) : Option α → Json
  | some a => f a
  | none => .null

def ofMembers (ms : List (String × Json)) : Json := .object (ms.map fun m => (some m.1, m.2))

end Json

end StatusBoard
