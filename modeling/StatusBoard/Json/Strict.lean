import StatusBoard.Json.Magnitude
import StatusBoard.Json.Reader

/-!
Which documents can be kept whole in memory.

Reading past a value one is not interested in asks for less: it may hold halves of surrogate
pairs, numbers of any size and containers nested to any depth.
-/

namespace StatusBoard.Json

open Text

mutual

/-- How deep the containers of a value are nested. -/
def depth : Json → Nat
  | .array items => depthItems items + 1
  | .object members => depthMembers members + 1
  | _ => 0

/-- How deep the containers of some items are nested. -/
def depthItems : List Json → Nat
  | [] => 0
  | v :: rest => max (depth v) (depthItems rest)

/-- How deep the containers of some members are nested. -/
def depthMembers : List (Option String × Json) → Nat
  | [] => 0
  | (_, v) :: rest => max (depth v) (depthMembers rest)

end

mutual

/-- Whether every string is a text and every number is finite. -/
def isSound : Json → Bool
  | .number n => !Magnitude.isTooLarge n.toList
  | .text t => t.isSome
  | .array items => areSound items
  | .object members => areSoundMembers members
  | _ => true

def areSound : List Json → Bool
  | [] => true
  | v :: rest => isSound v && areSound rest

def areSoundMembers : List (Option String × Json) → Bool
  | [] => true
  | (name, v) :: rest => name.isSome && isSound v && areSoundMembers rest

end

/-- How deep the containers of a document that is kept may be nested. -/
def maxDepth : Nat := 127

/-- Read a document that is to be kept whole. -/
def readStrict? (document : String) : Option Json :=
  (read? document).bind fun v => if v.isSound && v.depth ≤ maxDepth then some v else none

end StatusBoard.Json
