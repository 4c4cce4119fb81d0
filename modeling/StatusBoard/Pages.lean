import StatusBoard.Modal

/-!
The pages of the board: named overlays drawn one over the other, the frame at the bottom.
-/

namespace StatusBoard

/-- What a page shows. -/
inductive Page
  | frame
  | modal (m : Modal)
  deriving DecidableEq

/-- Named pages, bottom to top. -/
structure Pages where
  entries : List (String × Page)
  deriving DecidableEq

namespace Pages

def frameName : String := "frame"

/-- The name of the one dialog of the board. -/
def modalName : String := "modal"

def base : Pages := ⟨[(frameName, .frame)]⟩

def contains (p : Pages) (name : String) : Bool := p.entries.any fun e => e.1 = name

def replaceFirst (name : String) (page : Page) : List (String × Page) → List (String × Page)
  | [] => []
  | e :: rest => if e.1 = name then (e.1, page) :: rest else e :: replaceFirst name page rest

/-- Show a page under a name, in the place of the page that has the name or on top.  The name of
the frame cannot be given away. -/
def addOrReplace (p : Pages) (name : String) (page : Page) : Pages :=
  if name = frameName then p
  else if p.contains name then ⟨replaceFirst name page p.entries⟩
  else ⟨p.entries ++ [(name, page)]⟩

/-- Drop the page of a name, and say whether there was one.  The frame stays. -/
def remove (p : Pages) (name : String) : Pages × Bool :=
  if name = frameName then (p, false)
  else
    let rest := p.entries.filter fun e => e.1 ≠ name
    (⟨rest⟩, rest.length ≠ p.entries.length)

/-- The dialog of the board, if one is shown. -/
def modal (p : Pages) : Option Modal :=
  p.entries.findSome? fun
    | (name, .modal m) => if name = modalName then some m else none
    | _ => none

end Pages

end StatusBoard
