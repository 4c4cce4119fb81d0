/-!
What stands between the values of a TOML document: blanks, comments and the ends of lines.
-/

namespace StatusBoard.Toml

def isSpace (c : Char) : Bool := c = ' ' || c = '\t'

/-- A character that may stand in a comment or between quotes as it is: no control character but
the tab. -/
def isPlain (c : Char) : Bool := c = '\t' || (0x20 ≤ c.toNat && c.toNat ≠ 0x7F)

def skipSpaces (cs : List Char) : List Char := cs.dropWhile isSpace

theorem length_skipSpaces (cs : List Char) : (skipSpaces cs).length ≤ cs.length :=
  (List.dropWhile_sublist _).length_le

/-- Drop blanks, ends of lines and comments, either from inside a comment or from outside.  A
comment that holds a control character is refused. -/
def skipFiller : Bool → List Char → Option (List Char)
  | _, [] => some []
  | _, '\n' :: rest => skipFiller false rest
  | _, '\r' :: '\n' :: rest => skipFiller false rest
  | false, '#' :: rest => skipFiller true rest
  | false, c :: rest => if isSpace c then skipFiller false rest else some (c :: rest)
  | true, c :: rest => if isPlain c then skipFiller true rest else none

theorem length_of_skipFiller {inComment : Bool} {cs r : List Char}
    (h : skipFiller inComment cs = some r) : r.length ≤ cs.length := by
  fun_induction skipFiller inComment cs <;> simp_all <;> grind

/-- Drop a comment up to the end of its line. -/
def skipComment : List Char → List Char
  | '#' :: rest => rest.dropWhile isPlain
  | cs => cs

theorem length_skipComment (cs : List Char) : (skipComment cs).length ≤ cs.length := by
  unfold skipComment
  split
  · exact Nat.le_succ_of_le (List.dropWhile_sublist _).length_le
  · exact Nat.le_refl _

/-- Read the end of a line, or of the document. -/
def lineEnd : List Char → Option (List Char)
  | [] => some []
  | '\n' :: rest => some rest
  | '\r' :: '\n' :: rest => some rest
  | _ => none

theorem length_of_lineEnd {cs r : List Char} (h : lineEnd cs = some r) : r.length ≤ cs.length := by
  unfold lineEnd at h
  split at h <;> simp_all
  grind

/-- Finish a line: blanks, perhaps a comment, and its end. -/
def endLine (cs : List Char) : Option (List Char) := lineEnd (skipComment (skipSpaces cs))

theorem length_of_endLine {cs r : List Char} (h : endLine cs = some r) : r.length ≤ cs.length :=
  Nat.le_trans (length_of_lineEnd h) (Nat.le_trans (length_skipComment _) (length_skipSpaces cs))

end StatusBoard.Toml
