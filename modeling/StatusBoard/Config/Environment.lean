import StatusBoard.Config.Basic
import StatusBoard.Text.Quoted

/-!
Variables of the environment that override the configuration.

The variables are looked up one after the other, and the first one that cannot be read ends the
search.
-/

namespace StatusBoard.Config

open Text

/-- A variable and what its value changes. -/
structure Variable where
  name : String
  assign : String → Config → Except Fault Config

namespace Variable

/-- The complaint about a value that cannot be read. -/
def unreadable (name raw reason : String) : Fault :=
  .configParse "env" (name ++ "=" ++ quoted raw ++ ": " ++ reason)

/-- A variable whose value is taken as it is. -/
def text (name : String) (put : String → Config → Config) : Variable :=
  ⟨name, fun raw c => .ok (put raw c)⟩

/-- A variable whose value is a number of at most `max`; white space around it does not count. -/
def number (name : String) (max : Nat) (put : Nat → Config → Config) : Variable :=
  ⟨name, fun raw c => match readNat max (trim raw) with
    | .ok n => .ok (put n c)
    | .error e => .error (unreadable name raw e.message)⟩

/-- A variable whose value is `true` or `false`; white space around it does not count. -/
def flag (name : String) (put : Bool → Config → Config) : Variable :=
  ⟨name, fun raw c => match readBool (trim raw) with
    | some b => .ok (put b c)
    | none => .error (unreadable name raw "provided string was not \x60true\x60 or \x60false\x60")⟩

end Variable

/-- The entries of a list with commas between them, without the empty ones. -/
def readList (raw : String) : List String :=
  (((split (· = ',') raw.toList).map trimmed).filter (· ≠ [])).map String.ofList

def maxCount : Nat := 0xFFFFFFFFFFFFFFFF

/-- The variables in the order in which they are looked up. -/
def allVariables : List Variable :=
  [.text "OSD_CONSOLE_DEVICES" fun v c =>
      { c with console := { c.console with devices := readList v } },
    .text "OSD_CONSOLE_PRIMARY" fun v c => { c with console := { c.console with primary := v } },
    .number "OSD_CONSOLE_WIDTH" maxCoord fun n c =>
      { c with console := { c.console with width := some (UInt16.ofNat n) } },
    .number "OSD_CONSOLE_HEIGHT" maxCoord fun n c =>
      { c with console := { c.console with height := some (UInt16.ofNat n) } },
    .flag "OSD_CONSOLE_RAW_MODE" fun b c => { c with console := { c.console with rawMode := b } },
    .number "OSD_CONSOLE_TICK_INTERVAL_MS" maxCount fun n c =>
      { c with refresh := { c.refresh with tickMs := UInt64.ofNat n } },
    .number "OSD_CONSOLE_CLEAR_INTERVAL_SECS" maxCount fun n c =>
      { c with refresh := { c.refresh with clearSecs := UInt64.ofNat n } },
    .text "OSD_CONSOLE_PRODUCT_NAME" fun v c =>
      { c with sources := { c.sources with product := v } },
    .text "OSD_CONSOLE_OS_RELEASE_FILE" fun v c =>
      { c with sources := { c.sources with releaseFile := v } },
    .text "OSD_CONSOLE_STATE_FILE" fun v c =>
      { c with sources := { c.sources with stateFile := v } },
    .number "OSD_CONSOLE_LOG_MAX_LINES" maxCount fun n c =>
      { c with log := { c.log with maxLines := UInt64.ofNat n } },
    .flag "OSD_CONSOLE_LOG_MIRROR_STDOUT" fun b c => { c with log := { c.log with mirrored := b } },
    .text "OSD_CONSOLE_LOG" fun v c => { c with log := { c.log with filter := v } }]

def Variable.run (lookup : String → Option String) (v : Variable) (c : Config) :
    Except Fault Config :=
  match lookup v.name with
  | some raw => v.assign raw c
  | none => .ok c

def runVariables (lookup : String → Option String) (vs : List Variable) (c : Config) :
    Except Fault Config :=
  vs.foldlM (fun c v => v.run lookup c) c

/-- The names that are looked up, the one whose value cannot be read being the last. -/
def namesAsked (lookup : String → Option String) : List Variable → Config → List String
  | [], _ => []
  | v :: rest, c =>
      v.name :: match v.run lookup c with
        | .ok c => namesAsked lookup rest c
        | .error _ => []

/-- Look-ups in an environment in which a blank value counts as none. -/
def withoutBlanks (lookup : String → Option String) (name : String) : Option String :=
  (lookup name).filter fun v => trim v ≠ ""

def override (lookup : String → Option String) (c : Config) : Except Fault Config :=
  runVariables lookup allVariables c

end StatusBoard.Config
