import StatusBoard.Config.Document
import StatusBoard.Config.Environment
import StatusBoard.Source.File

/-!
Loading the configuration: the file first, then the environment, then the checks.
-/

namespace StatusBoard.Config

open Source

/-- Why there is no configuration.  A document that is no configuration is told apart from the
faults that have words of their own. -/
inductive LoadError
  | malformed
  | fault (f : Fault)
  deriving DecidableEq, Repr

/-- The context in which a malformed document is reported. -/
def documentContext : String := "toml"

def LoadError.toFault : LoadError → Fault
  | malformed => .configParse documentContext "malformed document"
  | fault f => f

/-- The configuration that a file gives.  Only a file that was asked for has to be there. -/
def ofFile (path : Option String) (f : File) : Except LoadError Config :=
  if f.isPresent then
    let path := path.getD defaultPath
    match f.readText with
    | .error e => .error (.fault (.io path e))
    | .ok t =>
        match ofDocument? t with
        | some c => .ok { c with path }
        | none => .error .malformed
  else
    match path with
    | some path => .error (.fault (.missingConfig path))
    | none => .ok standard

/-- Let the environment override a configuration, and check the result. -/
def finish (lookup : String → Option String) (c : Config) : Except Fault Config :=
  (c.override lookup).bind validate

/-- Load the configuration from a file, at the given path or at the default one, and from the
environment. -/
def load (path : Option String) (f : File) (lookup : String → Option String) :
    Except LoadError Config :=
  match ofFile path f with
  | .error e => .error e
  | .ok c =>
      match c.finish lookup with
      | .error e => .error (.fault e)
      | .ok c => .ok c

/-- The variables that are looked up while a configuration is loaded. -/
def asked (path : Option String) (f : File) (lookup : String → Option String) : List String :=
  match ofFile path f with
  | .error _ => []
  | .ok c => namesAsked lookup allVariables c

end StatusBoard.Config
