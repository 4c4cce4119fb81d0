/-!
The roles that text on the board can have.  Which color a role gets is decided by the theme of the
terminal, not here.
-/

namespace StatusBoard

/-- What a piece of text on the board is. -/
inductive Tone
  | normal
  | label
  | warning
  | error
  | border
  | title
  | progress
  deriving DecidableEq, Repr, Inhabited

end StatusBoard
