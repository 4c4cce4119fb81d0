import StatusBoard.Text.Blank

/-!
Paths of files and devices.

A path is kept as it was written, since that is how it is reported.  Two paths are the same if
they take the same steps; whether a step can be taken is not looked at.
-/

namespace StatusBoard.Path

open Text

def isStep (name : String) : Bool := name ≠ "" && name ≠ "."

/-- The steps of a path: a slash if it starts at the root, then the names between its slashes.  A
dot counts only if the path starts with it. -/
def steps (path : String) : List String :=
  match (split (· = '/') path.toList).map String.ofList with
  | [] => []
  | [name] => if name = "" then [] else [name]
  | name :: names => (if name = "" then "/" else name) :: names.filter isStep

def same (a b : String) : Bool := steps a = steps b

/-- Whether the paths of two lists are the same, one by one. -/
def allSame (as bs : List String) : Bool := as.map steps = bs.map steps

@[simp] theorem same_self (a : String) : same a a = true := by simp [same]

example : steps "/dev//tty1/./" = ["/", "dev", "tty1"] := by decide +kernel
example : steps "./a/../b" = [".", "a", "..", "b"] := by decide +kernel

end StatusBoard.Path
