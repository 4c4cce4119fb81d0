import StatusBoard.CommandLine.Switch
import StatusBoard.Text.Numeral

/-!
What a command line asks for.

Three switches may stand before the command or after it.  A path that is given in both places
counts where it stands after the command.
-/

namespace StatusBoard.CommandLine

open Text

/-- Settings for every command. -/
structure Globals where
  /-- The configuration file. -/
  path : Option String
  isJson : Bool
  /-- Whether colors are turned off. -/
  isPlain : Bool
  deriving DecidableEq, Repr

def Globals.standard : Globals := ⟨none, false, false⟩

def Globals.override (outer inner : Globals) : Globals :=
  ⟨inner.path <|> outer.path, outer.isJson || inner.isJson, outer.isPlain || inner.isPlain⟩

/-- The frame that a preview shows. -/
structure Preview where
  width : Option UInt16
  height : Option UInt16
  /-- The title of the dialog, if there is to be one. -/
  title : Option String
  message : String
  progress : Int64
  max : Int64
  log : List String
  deriving DecidableEq, Repr

def Preview.standard : Preview := ⟨none, none, none, "", 0, 0, []⟩

/-- The commands. -/
inductive Command
  /-- Run the board on the consoles. -/
  | run (isQuiet : Bool)
  /-- Print one frame. -/
  | preview (p : Preview)
  /-- Print the addresses that the board would show. -/
  | addresses
  /-- Print the configuration. -/
  | config
  deriving DecidableEq, Repr

/-- A command with its settings. -/
structure Invocation where
  globals : Globals
  command : Command
  deriving DecidableEq, Repr

def readPath (t : String) : Except Refusal String := if t = "" then .error .missingValue else .ok t

def readLong (t : String) : Except Refusal Int64 :=
  match readInt 0x7FFFFFFFFFFFFFFF t with
  | .ok n => .ok (Int64.ofInt n)
  | .error _ => .error .malformedValue

def readSide (t : String) : Except Refusal UInt16 :=
  match readInt 0x7FFFFFFFFFFFFFFF t with
  | .ok n => if 0 ≤ n ∧ n ≤ maxSide then .ok (UInt16.ofNat n.toNat) else .error .malformedValue
  | .error _ => .error .malformedValue
where
  /-- The largest side. -/
  maxSide : Int := 0xFFFF

def flag {σ : Type} (name : String) (set : σ → σ) : Switch σ := ⟨name, none, .flag set⟩

/-- A switch with a value that is given once. -/
def valued {σ α : Type} (name : String) (read : String → Except Refusal α) (put : σ → α → σ) :
    Switch σ :=
  ⟨name, none, .value false false fun t => (read t).map fun a s => put s a⟩

def helpSwitch {σ : Type} : Switch σ := ⟨"help", some 'h', .answer .help⟩

def versionSwitch {σ : Type} : Switch σ := ⟨"version", some 'V', .answer .version⟩

def Globals.switches : List (Switch Globals) :=
  [valued "config" readPath fun s a => { s with path := some a },
    flag "json" fun s => { s with isJson := true },
    flag "no-color" fun s => { s with isPlain := true }]

def Preview.switches : List (Switch Preview) :=
  [valued "width" readSide fun s a => { s with width := some a },
    valued "height" readSide fun s a => { s with height := some a },
    valued "modal-title" Except.ok fun s a => { s with title := some a },
    valued "modal-message" Except.ok fun s a => { s with message := a },
    ⟨"progress", none, .value false true fun t => (readLong t).map fun a s => { s with progress := a }⟩,
    valued "max" readLong fun s a => { s with max := a },
    ⟨"log", none, .value true false fun t => .ok fun s => { s with log := s.log ++ [t] }⟩]

/-- The switches of a run: whether the log is kept off the standard output. -/
def runSwitches : List (Switch Bool) := [flag "no-mirror" fun _ => true]

/-- Read the words after a command with settings of its own. -/
def readSettings {σ : Type} (switches : List (Switch σ)) (start : σ) (words : List String) :
    Except Refusal (Globals × σ) :=
  let all : List (Switch (Globals × σ)) :=
    Globals.switches.map (Switch.lift fun f s => (f s.1, s.2)) ++
      switches.map (Switch.lift fun f s => (s.1, f s.2)) ++ [helpSwitch]
  ((Scan.start (Globals.standard, start)).run all [] words).bind fun (s, _) =>
    s.settle.map Scan.settings

/-- The words that are commands; the last one asks for help. -/
def commandWords : List String := ["run", "preview", "addresses", "config", "help"]

/-- What the words after `help` are answered with: at most one of them, a command. -/
def helpFor : List String → Refusal
  | [] => .help
  | [w] => if commandWords.contains w then .help else .unknownCommand
  | _ => .unknownCommand

def readCommand (name : String) (words : List String) : Except Refusal (Globals × Command) :=
  match name with
  | "run" => (readSettings runSwitches false words).map fun s => (s.1, .run s.2)
  | "preview" => (readSettings Preview.switches .standard words).map fun s => (s.1, .preview s.2)
  | "addresses" => (readSettings [] () words).map fun s => (s.1, .addresses)
  | "config" => (readSettings [] () words).map fun s => (s.1, .config)
  | _ => .error (helpFor words)

def Invocation.read (words : List String) : Except Refusal Invocation :=
  ((Scan.start Globals.standard).run (Globals.switches ++ [helpSwitch, versionSwitch]) commandWords
    words).bind fun (s, found) =>
  match found with
  | some (name, rest) =>
      (readCommand name rest).bind fun (inner, command) =>
      s.settle.map fun s => ⟨s.settings.override inner, command⟩
  | none =>
      s.settle.bind fun s => .error (if s.seen = [] then .nothingGiven else .noCommand)

end StatusBoard.CommandLine
