import StatusBoard.Json.Value

/-!
JSON objects whose members are in the order of their names.
-/

namespace StatusBoard.Json

mutual

/-- A value in which the members of every object are in ascending order of their names. -/
def byName : Json → Json
  | .array items => .array (itemsByName items)
  | .object members =>
      .object ((membersByName members).mergeSort fun a b => decide (a.1.getD "" ≤ b.1.getD ""))
  | v => v

def itemsByName : List Json → List Json
  | [] => []
  | v :: rest => byName v :: itemsByName rest

def membersByName : List (Option String × Json) → List (Option String × Json)
  | [] => []
  | (name, v) :: rest => (name, byName v) :: membersByName rest

end

end StatusBoard.Json
