import StatusBoard.Config.Basic
import StatusBoard.Json.Printer
import StatusBoard.Text.Utf8
import StatusBoard.Toml.Printer
import StatusBoard.Toml.Scalar

/-!
Showing a configuration: as JSON, as a document that can be loaded again, and as a short
fingerprint of what it says.
-/

namespace StatusBoard.Config

open Text

def lengthJson (n : Option UInt16) : Json := .ofOption (fun n => .ofNat n.toNat) n

/-- The sections in the order in which they are declared. -/
def toJson (c : Config) : Json :=
  .ofMembers
    [("console", .ofMembers
      [("devices", .ofTexts c.console.devices), ("primary", .ofText c.console.primary),
        ("width", lengthJson c.console.width), ("height", lengthJson c.console.height),
        ("raw_mode", .bool c.console.rawMode)]),
    ("refresh", .ofMembers
      [("tick_interval_ms", .ofNat c.refresh.tickMs.toNat),
        ("clear_interval_secs", .ofNat c.refresh.clearSecs.toNat)]),
    ("sources", .ofMembers
      [("product_name", .ofText c.sources.product),
        ("os_release_file", .ofText c.sources.releaseFile),
        ("state_file", .ofText c.sources.stateFile)]),
    ("log", .ofMembers
      [("warning_marker", .ofText c.log.warningMarker),
        ("error_marker", .ofText c.log.errorMarker),
        ("max_lines", .ofNat c.log.maxLines.toNat), ("mirror_stdout", .bool c.log.mirrored),
        ("filter", .ofText c.log.filter)])]

def canonical (c : Config) : String := c.toJson.compact

def fnv1a (bytes : List UInt8) : UInt64 :=
  bytes.foldl (fun h b => (h ^^^ b.toUInt64) * 0x100000001b3) 0xcbf29ce484222325

def hexWord (n : UInt64) : String :=
  let digits := Nat.toDigits 16 n.toNat
  String.ofList (List.replicate (16 - digits.length) '0' ++ digits)

def fingerprint (c : Config) : String := hexWord (fnv1a (Utf8.encode c.canonical))

/-- A count as the value of a key; a document holds integers below `Toml.maxAbsolute`. -/
def countItem (n : UInt64) : Option Toml.Item :=
  (Toml.toInteger? n.toNat).map .integer

/-- A side of the screen as a key and its value, if it is set. -/
def lengthItem (name : String) (n : Option UInt16) : List (String × Toml.Item) :=
  match n with
  | some n => [(name, .integer n.toNat)]
  | none => []

def Console.items (c : Console) : List (String × Toml.Item) :=
  [("devices", .texts c.devices), ("primary", .text c.primary)] ++ lengthItem "width" c.width ++
    lengthItem "height" c.height ++ [("raw_mode", .boolean c.rawMode)]

def Refresh.items? (r : Refresh) : Option (List (String × Toml.Item)) := do
  let tickMs ← countItem r.tickMs
  let clearSecs ← countItem r.clearSecs
  return [("tick_interval_ms", tickMs), ("clear_interval_secs", clearSecs)]

def Sources.items (s : Sources) : List (String × Toml.Item) :=
  [("product_name", .text s.product), ("os_release_file", .text s.releaseFile),
    ("state_file", .text s.stateFile)]

def Logging.items? (l : Logging) : Option (List (String × Toml.Item)) := do
  let maxLines ← countItem l.maxLines
  return [("warning_marker", .text l.warningMarker), ("error_marker", .text l.errorMarker),
    ("max_lines", maxLines), ("mirror_stdout", .boolean l.mirrored), ("filter", .text l.filter)]

/-- The sections of a configuration as a document shows them, if a document can. -/
def sections? (c : Config) : Option (List Toml.Section) := do
  let refresh ← c.refresh.items?
  let log ← c.log.items?
  return [⟨"console", c.console.items⟩, ⟨"refresh", refresh⟩, ⟨"sources", c.sources.items⟩,
    ⟨"log", log⟩]

/-- A document from which the configuration can be loaded again, under a comment that says where
it comes from. -/
def document? (c : Config) : Option String :=
  c.sections?.map fun sections =>
    "# " ++ c.path ++ " (hash " ++ c.fingerprint ++ ")\n" ++ Toml.print sections

end StatusBoard.Config
