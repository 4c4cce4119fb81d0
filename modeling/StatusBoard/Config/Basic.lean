import StatusBoard.Cadence
import StatusBoard.Fault
import StatusBoard.Log.Markers
import StatusBoard.Path
import StatusBoard.Terminal.Geometry

/-!
The configuration: its four sections, their defaults, the limits that are checked, and the values
that are derived from it.
-/

namespace StatusBoard.Config

/-- The consoles and the size of the screen. -/
structure Console where
  /-- All devices that can be opened show the same. -/
  devices : List String
  /-- The device that is cleared from time to time. -/
  primary : String
  width : Option UInt16
  height : Option UInt16
  /-- Whether terminals are put in raw mode. -/
  rawMode : Bool
  deriving DecidableEq, Repr

/-- How often the board is refreshed, and how often the console is cleared. -/
structure Refresh where
  tickMs : UInt64
  clearSecs : UInt64
  deriving DecidableEq, Repr

/-- What the board reports, and where it is read. -/
structure Sources where
  product : String
  releaseFile : String
  stateFile : String
  deriving DecidableEq, Repr

/-- How log text is treated. -/
structure Logging where
  warningMarker : String
  errorMarker : String
  maxLines : UInt64
  /-- Whether log text also goes to the standard output. -/
  mirrored : Bool
  /-- Which events are logged. -/
  filter : String
  deriving DecidableEq, Repr

namespace Console

def standardDevices : List String :=
  "/dev/console" :: ["1", "2", "3", "4", "5", "6", "7"].map ("/dev/tty" ++ ·)

def standard : Console := ⟨standardDevices, "/dev/console", none, none, true⟩

def same (a b : Console) : Bool :=
  Path.allSame a.devices b.devices && Path.same a.primary b.primary && a.width = b.width &&
    a.height = b.height && a.rawMode = b.rawMode

def geometry (c : Console) : Terminal.Geometry :=
  .ofOverride (c.width.map UInt16.toNat) (c.height.map UInt16.toNat)

end Console

namespace Refresh

def standard : Refresh := ⟨5000, 60⟩

def maxMs : Nat := 0xFFFFFFFFFFFFFFFF

/-- Milliseconds between two clears, at most the largest number there is. -/
def clearMs (r : Refresh) : Nat := min (r.clearSecs.toNat * 1000) maxMs

def clearEvery (r : Refresh) : Nat := Cadence.clearEvery r.tickMs.toNat r.clearMs

end Refresh

namespace Sources

def standard : Sources :=
  ⟨"Incus OS", "/usr/lib/os-release", "/var/lib/incus-os/state.json"⟩

def same (a b : Sources) : Bool :=
  a.product = b.product && Path.same a.releaseFile b.releaseFile && Path.same a.stateFile b.stateFile

end Sources

namespace Logging

def standard : Logging := ⟨"level=WARN", "level=ERROR", 1000, true, "info"⟩

/-- The markers that tell how grave log text is. -/
def markers (l : Logging) : Log.Markers := ⟨l.warningMarker, l.errorMarker⟩

end Logging

end Config

/-- A configuration, and the path it was read from or would have been. -/
structure Config where
  console : Config.Console
  refresh : Config.Refresh
  sources : Config.Sources
  log : Config.Logging
  path : String
  deriving DecidableEq, Repr

namespace Config

/-- Where the configuration is looked for if no path is given. -/
def defaultPath : String := "/etc/osd-console/config.toml"

def standard : Config := ⟨.standard, .standard, .standard, .standard, defaultPath⟩

/-- Whether two configurations say the same, wherever they come from. -/
def sameSections (a b : Config) : Bool :=
  a.console.same b.console && a.refresh = b.refresh && a.sources.same b.sources && a.log = b.log

def minWidth : Nat := 20

def minHeight : Nat := 10

/-- The complaint about a side of the screen that is too short. -/
def sideFault (name : String) (least : Nat) (side : Option UInt16) : Option String :=
  match side with
  | some n =>
      if n.toNat < least then
        some ("console." ++ name ++ " must be >= " ++ toString least ++ ", got " ++
          toString n.toNat)
      else none
  | none => none

def complaint (c : Config) : Option String :=
  if c.console.devices = [] then some "console.devices must list at least one device"
  else (sideFault "width" minWidth c.console.width).or <|
    (sideFault "height" minHeight c.console.height).or <|
    if c.refresh.tickMs = 0 then some "refresh.tick_interval_ms must be > 0"
    else if c.refresh.clearMs < c.refresh.tickMs.toNat then
      some ("refresh.clear_interval_secs (" ++ toString c.refresh.clearSecs.toNat ++
        "s) must be >= the tick interval (" ++ toString c.refresh.tickMs.toNat ++ "ms)")
    else if c.log.warningMarker = "" || c.log.errorMarker = "" then
      some "log.warning_marker and log.error_marker must be non-empty"
    else if c.log.maxLines = 0 then some "log.max_lines must be >= 1"
    else none

def validate (c : Config) : Except Fault Config :=
  match c.complaint with
  | some details => .error (.invalidConfig details)
  | none => .ok c

end Config

end StatusBoard
