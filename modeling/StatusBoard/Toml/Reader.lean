import StatusBoard.Toml.Scalar
import StatusBoard.Toml.Table
import StatusBoard.Toml.Text

/-!
Reading a TOML document: keys and values first, then the lines they make up, then the tables that
the lines build.
-/

namespace StatusBoard.Toml

/-- Characters left over after at least one of `cs` has been used. -/
abbrev Rest (cs : List Char) : Type := { r : List Char // r.length < cs.length }

/-- How many containers may stand inside each other, and how many names a key may have. -/
def maxNesting : Nat := 79

def isBare (c : Char) : Bool := c.isAlphanum || c = '_' || c = '-'

def scanName (cs : List Char) : Option (String × List Char) :=
  match cs with
  | '"' :: _ | '\'' :: _ => scanLineText cs
  | _ =>
      let name := cs.takeWhile isBare
      if name = [] then none else some (String.ofList name, cs.dropWhile isBare)

theorem length_of_scanName {cs r : List Char} {t : String} (h : scanName cs = some (t, r)) :
    r.length < cs.length := by
  unfold scanName at h
  split at h
  case h_1 | h_2 => exact length_of_scanLineText h
  case h_3 =>
    have hsplit := congrArg List.length (List.takeWhile_append_dropWhile (p := isBare) (l := cs))
    simp only [List.length_append] at hsplit
    simp only at h
    split at h
    · simp at h
    · rename_i hne
      have := List.length_pos_iff.2 hne
      simp only [Option.some.injEq, Prod.mk.injEq] at h
      rw [← h.2]
      omega

/-- Read the names of a key, with dots between them and blanks around them. -/
def scanKey (cs : List Char) : Option (Key × Rest cs) :=
  match h : scanName (skipSpaces cs) with
  | none => none
  | some (name, r) =>
      have hr := length_of_scanName h
      have hcs := length_skipSpaces cs
      match h' : skipSpaces r with
      | '.' :: r' =>
          have hr' : r'.length < r.length := by
            have := length_skipSpaces r
            rw [h', List.length_cons] at this
            omega
          match scanKey r' with
          | some (k, ⟨r'', h''⟩) => some (⟨name :: k.path, k.name⟩, ⟨r'', by omega⟩)
          | none => none
      | r' => some (⟨[], name⟩, ⟨r', by have := length_skipSpaces r; rw [h'] at this; omega⟩)
termination_by cs.length

def readKey (cs : List Char) : Option (Key × Rest cs) :=
  (scanKey cs).bind fun k => if k.1.length ≤ maxNesting then some k else none

mutual

/-- Read a value in which containers are nested at most `depth` deep. -/
def readValue (depth : Nat) (cs : List Char) : Option (Value × Rest cs) :=
  match depth, cs with
  | depth + 1, '[' :: r =>
      match readItems depth r with
      | some (items, ⟨r', h⟩) => some (.array items, ⟨r', by simp; omega⟩)
      | none => none
  | depth + 1, '\x7b' :: r =>
      match h : skipSpaces r with
      | '\x7d' :: r' =>
          some (.table .inline [], ⟨r', by
            have := length_skipSpaces r
            rw [h, List.length_cons] at this
            simp; omega⟩)
      | _ =>
          match readPairs depth r with
          | some (pairs, ⟨r', h'⟩) =>
              match Table.ofPairs pairs with
              | some t => some (.table .inline t, ⟨r', by simp; omega⟩)
              | none => none
          | none => none
  | 0, '[' :: _ | 0, '\x7b' :: _ => none
  | _, '"' :: r =>
      match h : scanText ('"' :: r) with
      | some (t, r') => some (.text t, ⟨r', length_of_scanText h⟩)
      | none => none
  | _, '\'' :: r =>
      match h : scanText ('\'' :: r) with
      | some (t, r') => some (.text t, ⟨r', length_of_scanText h⟩)
      | none => none
  | _, cs =>
      match h : scanScalar cs with
      | some (v, r') => some (v, ⟨r', length_of_scanScalar h⟩)
      | none => none
termination_by (depth, 2 * cs.length)

/-- Read the items of an array up to its closing bracket.  A comma may follow the last one. -/
def readItems (depth : Nat) (cs : List Char) : Option (List Value × Rest cs) :=
  match h : skipFiller false cs with
  | none => none
  | some (']' :: r) =>
      some ([], ⟨r, by have := length_of_skipFiller h; simp at this; omega⟩)
  | some cs' =>
      have hcs' := length_of_skipFiller h
      match readValue depth cs' with
      | none => none
      | some (v, ⟨r, hr⟩) =>
          match h' : skipFiller false r with
          | some (']' :: r') =>
              some ([v], ⟨r', by have := length_of_skipFiller h'; simp at this; omega⟩)
          | some (',' :: r') =>
              have hr' : r'.length < cs.length := by
                have := length_of_skipFiller h'
                simp at this
                omega
              match readItems depth r' with
              | some (items, ⟨r'', h''⟩) => some (v :: items, ⟨r'', by omega⟩)
              | none => none
          | _ => none
termination_by (depth, 2 * cs.length + 1)

/-- Read keys and values up to a closing brace, with commas between them. -/
def readPairs (depth : Nat) (cs : List Char) : Option (List (Key × Value) × Rest cs) :=
  match readKey cs with
  | none => none
  | some k =>
      match h : k.2.1 with
      | '=' :: r =>
          have hr := length_skipSpaces r
          have hr' : (skipSpaces r).length < cs.length := by
            have hk := k.2.2
            rw [h, List.length_cons] at hk
            omega
          match readValue depth (skipSpaces r) with
          | none => none
          | some (v, ⟨r', hv⟩) =>
              match h' : skipSpaces r' with
              | '\x7d' :: r'' =>
                  some ([(k.1, v)], ⟨r'', by
                    have := length_skipSpaces r'
                    rw [h', List.length_cons] at this
                    omega⟩)
              | ',' :: r'' =>
                  have hr'' : r''.length < cs.length := by
                    have := length_skipSpaces r'
                    rw [h', List.length_cons] at this
                    omega
                  match readPairs depth r'' with
                  | some (pairs, ⟨r₃, h₃⟩) => some ((k.1, v) :: pairs, ⟨r₃, by omega⟩)
                  | none => none
              | _ => none
      | _ => none
termination_by (depth, 2 * cs.length + 1)

end

/-- What one line of a document says. -/
inductive Statement
  | assign (k : Key) (v : Value)
  | openTable (k : Key)
  | openItem (k : Key)

/-- Read one statement with the end of its line. -/
def readStatement (cs : List Char) : Option (Statement × Rest cs) :=
  match cs with
  | '[' :: '[' :: r =>
      match readKey r with
      | some (k, ⟨']' :: ']' :: r', h⟩) =>
          match h' : endLine r' with
          | some r'' =>
              some (.openItem k, ⟨r'', by
                have := length_of_endLine h'
                simp at h ⊢
                omega⟩)
          | none => none
      | _ => none
  | '[' :: r =>
      match readKey r with
      | some (k, ⟨']' :: r', h⟩) =>
          match h' : endLine r' with
          | some r'' =>
              some (.openTable k, ⟨r'', by
                have := length_of_endLine h'
                simp at h ⊢
                omega⟩)
          | none => none
      | _ => none
  | cs =>
      match readKey cs with
      | some (k, ⟨'=' :: r, h⟩) =>
          match readValue maxNesting (skipSpaces r) with
          | some (v, ⟨r', h'⟩) =>
              match h'' : endLine r' with
              | some r'' =>
                  some (.assign k v, ⟨r'', by
                    have := length_of_endLine h''
                    have := length_skipSpaces r
                    simp at h
                    omega⟩)
              | none => none
          | none => none
      | _ => none

def readStatements (cs : List Char) : Option (List Statement) :=
  match h : skipFiller false cs with
  | none => none
  | some [] => some []
  | some (c :: r) =>
      have hcs := length_of_skipFiller h
      match readStatement (c :: r) with
      | some (s, ⟨r', h'⟩) =>
          have : r'.length < cs.length := by omega
          (readStatements r').map (s :: ·)
      | none => none
termination_by cs.length

/-- The tables built so far, and the path of the one that is open. -/
structure Building where
  root : Table
  current : Option Key

namespace Building

/-- The path of the open table; empty at the start of a document. -/
def path (b : Building) : List String :=
  match b.current with
  | some k => k.path ++ [k.name]
  | none => []

def run (b : Building) : Statement → Option Building
  | .assign k v => (b.root.changeAt (Table.assign k v) b.path).map ({ b with root := · })
  | .openTable k => (b.root.openTable k).map (⟨·, some k⟩)
  | .openItem k => (b.root.openItem k).map (⟨·, some k⟩)

end Building

def build (statements : List Statement) : Option Table :=
  (statements.foldlM Building.run ⟨[], none⟩).map Building.root

def dropMark : List Char → List Char
  | '\uFEFF' :: rest => rest
  | cs => cs

def read? (document : String) : Option Table :=
  (readStatements (dropMark document.toList)).bind build

end StatusBoard.Toml
