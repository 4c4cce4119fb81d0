import StatusBoard.Json.Token
import StatusBoard.Json.Value

/-!
Reading a JSON document from its tokens.

A reader returns the tokens it leaves together with the fact that it has used some, which is what
makes the loops over items and members end.  Arrays and objects may stand inside each other up to
a limit.
-/

namespace StatusBoard.Json

open Token

/-- Tokens left over after at least one of `ts` has been used. -/
abbrev Rest (ts : List Token) : Type := { r : List Token // r.length < ts.length }

mutual

/-- Read a value in which containers are nested at most `depth` deep. -/
def readValue (depth : Nat) (ts : List Token) : Option (Json × Rest ts) :=
  match depth, ts with
  | _, .null :: r => some (.null, ⟨r, by simp⟩)
  | _, .bool b :: r => some (.bool b, ⟨r, by simp⟩)
  | _, .number n :: r => some (.number n, ⟨r, by simp⟩)
  | _, .text t :: r => some (.text t, ⟨r, by simp⟩)
  | _ + 1, .openBracket :: .closeBracket :: r =>
      some (.array [], ⟨r, Nat.lt_succ_of_lt r.length.lt_succ_self⟩)
  | depth + 1, .openBracket :: r =>
      match readItems depth r with
      | some (items, ⟨r', h⟩) => some (.array items, ⟨r', by simp; omega⟩)
      | none => none
  | _ + 1, .openBrace :: .closeBrace :: r =>
      some (.object [], ⟨r, Nat.lt_succ_of_lt r.length.lt_succ_self⟩)
  | depth + 1, .openBrace :: r =>
      match readMembers depth r with
      | some (members, ⟨r', h⟩) => some (.object members, ⟨r', by simp; omega⟩)
      | none => none
  | _, _ => none
termination_by (depth, ts.length, 0)

/-- Read the items of an array, up to its closing bracket. -/
def readItems (depth : Nat) (ts : List Token) : Option (List Json × Rest ts) :=
  match readValue depth ts with
  | some (v, ⟨.closeBracket :: r, h⟩) => some ([v], ⟨r, by simp at h; omega⟩)
  | some (v, ⟨.comma :: r, h⟩) =>
      have : r.length < ts.length := by simp at h; omega
      match readItems depth r with
      | some (items, ⟨r', h'⟩) => some (v :: items, ⟨r', by omega⟩)
      | none => none
  | _ => none
termination_by (depth, ts.length, 1)

/-- Read the members of an object, up to its closing brace. -/
def readMembers (depth : Nat) (ts : List Token) :
    Option (List (Option String × Json) × Rest ts) :=
  match ts with
  | .text name :: .colon :: ts' =>
      match readValue depth ts' with
      | some (v, ⟨.closeBrace :: r, h⟩) => some ([(name, v)], ⟨r, by simp at h ⊢; omega⟩)
      | some (v, ⟨.comma :: r, h⟩) =>
          have : r.length < ts'.length := by simp at h; omega
          match readMembers depth r with
          | some (members, ⟨r', h'⟩) => some ((name, v) :: members, ⟨r', by simp; omega⟩)
          | none => none
      | _ => none
  | _ => none
termination_by (depth, ts.length, 1)

end

def read? (document : String) : Option Json :=
  match scan document.toList with
  | none => none
  | some ts =>
      match readValue ts.length ts with
      | some (v, ⟨[], _⟩) => some v
      | _ => none

end StatusBoard.Json
