import StatusBoard.NameMap
import StatusBoard.Source.File
import StatusBoard.Text.Blank

/-!
The release of the system, from a file of `KEY=value` lines.

A value may stand between quotes, in which a double quote and a backslash are written after a
backslash.  Of two lines with the same key the last one counts.
-/

namespace StatusBoard.Source

open Text

namespace Release

/-- Replace each backslash that is followed by `c`, together with that `c`, by `c`, reading from
the left. -/
def dropEscapes (c : Char) : List Char → List Char
  | '\\' :: d :: rest =>
      if d = c then c :: dropEscapes c rest else '\\' :: dropEscapes c (d :: rest)
  | d :: rest => d :: dropEscapes c rest
  | [] => []

/-- What stands between two quotes `q`, if a text begins and ends with one each. -/
def between? (q : Char) (cs : List Char) : Option (List Char) :=
  match cs with
  | [] => none
  | c :: rest => if c = q && rest.getLast? = some q then some rest.dropLast else none

/-- A value without one layer of quotes.  Escapes are resolved only inside quotes: those of the
double quote first, then those of the backslash. -/
def unquote (cs : List Char) : List Char :=
  match between? '"' cs <|> between? '\'' cs with
  | some inner => dropEscapes '\\' (dropEscapes '"' inner)
  | none => cs

def splitAtEquals? (cs : List Char) : Option (List Char × List Char) :=
  match cs.dropWhile (· ≠ '=') with
  | [] => none
  | _ :: value => some (cs.takeWhile (· ≠ '='), value)

/-- The key and the value of a line; none for a comment, a blank line or a line without an equals
sign. -/
def readLine (line : String) : Option (String × String) :=
  let cs := trimmed line.toList
  if cs.head? = some '#' then none
  else (splitAtEquals? cs).map fun (key, value) =>
    (String.ofList (trimmed key), String.ofList (unquote (trimmed value)))

def readFields (t : String) : NameMap String := .ofList ((lines t).filterMap readLine)

/-- The release among the fields: the first of the two versions that is there and is not empty. -/
def ofFields (fields : NameMap String) : Option String :=
  ["IMAGE_VERSION", "VERSION_ID"].findSome? fun key =>
    (fields.get? key).bind fun v => if v = "" then none else some v

end Release

def readRelease (path : String) (f : File) : Except Fault String :=
  match f.readText with
  | .error e => .error (.release path e.message)
  | .ok t =>
      match Release.ofFields (Release.readFields t) with
      | some v => .ok v
      | none => .error (.release path "no IMAGE_VERSION or VERSION_ID entry")

end StatusBoard.Source
