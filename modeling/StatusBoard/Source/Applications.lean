import StatusBoard.Json.Printer
import StatusBoard.Json.Reader
import StatusBoard.NameMap
import StatusBoard.Source.File

/-!
The installed applications, from the state file that the system keeps.

A record in that file is an object in which unknown members are ignored and missing ones have
their default, or an array that holds the known members in order.
-/

namespace StatusBoard.Source

abbrev Applications := NameMap String

namespace Applications

/-- The value of the one known member of a record: `none` if the record is malformed, `some none`
if the member is missing.  The member may not be repeated. -/
def member? (name : String) : Json → Option (Option Json)
  | .array [] => some none
  | .array [v] => some (some v)
  | .object members =>
      if members.all fun m => m.1.isSome then
        match members.filter fun m => m.1 = some name with
        | [] => some none
        | [m] => some (some m.2)
        | _ => none
      else none
  | _ => none

def readVersion (j : Json) : Option String :=
  match member? "version" j with
  | some none => some ""
  | some (some (.text (some v))) => some v
  | _ => none

/-- The applications of an object whose members are their records. -/
def readRecords : Json → Option Applications
  | .object members =>
      (members.mapM fun (m : Option String × Json) => do
        let name ← m.1
        let version ← readVersion m.2
        return (name, version)).map NameMap.ofList
  | _ => none

def ofJson? (j : Json) : Option Applications :=
  match member? "applications" j with
  | some none => some .empty
  | some (some records) => readRecords records
  | none => none

def toJson (a : Applications) : Json :=
  .ofMembers [("applications",
    .ofMembers (a.entries.map fun e => (e.1, .ofMembers [("version", .ofText e.2)])))]

/-- The applications as they are shown, in the order of their names. -/
def labels (a : Applications) : List String := a.entries.map fun e => e.1 ++ "(" ++ e.2 ++ ")"

end Applications

/-- Why the applications could not be read. -/
inductive ApplicationsError
  | unreadable (cause : IoError)
  | malformed
  deriving DecidableEq, Repr

/-- Read the applications from a state file.  A file that is absent holds none. -/
def readApplications (f : File) : Except ApplicationsError Applications :=
  match f with
  | .absent => .ok .empty
  | f =>
      match f.readText with
      | .error e => .error (.unreadable e)
      | .ok t =>
          match (Json.read? t).bind Applications.ofJson? with
          | some a => .ok a
          | none => .error .malformed

/-- The failure as a fault of the state file; a parser's own words are not repeated. -/
def ApplicationsError.fault (path : String) : ApplicationsError → Fault
  | .unreadable e => .state path e.message
  | .malformed => .state path "malformed state"

end StatusBoard.Source
