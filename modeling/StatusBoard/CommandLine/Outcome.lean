import StatusBoard.Board.Basic
import StatusBoard.CommandLine.Invocation
import StatusBoard.Config.Load
import StatusBoard.Config.Render
import StatusBoard.Json.Order
import StatusBoard.Source.Surroundings

/-!
What the commands print that end by themselves, and the status they leave.
-/

namespace StatusBoard.CommandLine

open Source

/-- How a command ends. -/
structure Outcome where
  status : Nat
  output : String
  complaint : String
  deriving DecidableEq, Repr

namespace Outcome

def success (output : String) : Outcome := ⟨0, output, ""⟩

def failure (status : Nat) (message : String) : Outcome :=
  ⟨status, "", "osd-console: " ++ message ++ "\n"⟩

/-- A command that fails with a fault; the status tells whether the configuration is to blame. -/
def ofFault (f : Fault) : Outcome := failure (if f.isUserError then 1 else 2) f.message

end Outcome

def loadConfig (w : Surroundings) (g : Globals) : Except Config.LoadError Config :=
  Config.load g.path (w.file (g.path.getD Config.defaultPath)) (Config.withoutBlanks w.lookup)

/-- The configuration in the form that is asked for. -/
def showConfig (c : Config) (isJson : Bool) : Outcome :=
  if isJson then
    .success <| String.append (Json.pretty (Json.byName (.ofMembers
      [("config_file", .ofText c.path), ("hash", .ofText c.fingerprint), ("config", c.toJson)]))) "\n"
  else
    match c.document? with
    | some document => .success document
    | none => .failure 2 "failed to render config: out-of-range value for u64 type"

def showAddresses (w : Surroundings) (isJson : Bool) : Outcome :=
  match w.addresses.map shownAddresses with
  | .error e => .ofFault e
  | .ok as =>
      .success (if isJson then Json.compact (.ofTexts as) ++ "\n"
        else String.join (as.map (· ++ "\n")))

namespace Preview

/-- The size of a preview: as asked for, else as configured, else the standard one. -/
def size (p : Preview) (c : Config) : Terminal.Size :=
  ⟨((p.width <|> c.console.width).map UInt16.toNat).getD Terminal.Size.standard.width,
    ((p.height <|> c.console.height).map UInt16.toNat).getD Terminal.Size.standard.height⟩

def record (c : Config) (line : String) : Log.Record :=
  ⟨c.log.markers.classify (Text.Utf8.encode line), line ++ "\n"⟩

def board (p : Preview) (c : Config) (d : Frame.Facts) (theme : Terminal.Theme) : Board :=
  let b := (Board.start (.fresh (p.size c) theme) c.log.maxLines.toNat).apply d
  let b := (p.log.map (record c)).foldl Board.append b
  match p.title with
  | some title => b.showModal ⟨title, p.message, p.progress, p.max⟩
  | none => b

def modalJson (m : Modal) : Json :=
  .ofMembers [("title", .ofText m.title), ("message", .ofText m.message),
    ("progress", .ofInt m.progress.toInt), ("max", .ofInt m.max.toInt)]

def boardJson (b : Board) : Json :=
  let picture := b.picture
  .ofMembers [("width", .ofNat b.screen.size.width), ("height", .ofNat b.screen.size.height),
    ("rows", .ofTexts ((List.range picture.height).map picture.rowText)),
    ("footer", .ofTexts b.frame.footerLines), ("modal", .ofOption modalJson b.pages.modal)]

def print (b : Board) (isJson : Bool) : Outcome :=
  .success ((if isJson then Json.pretty (boardJson b).byName else b.picture.toText) ++ "\n")

end Preview

/-- Carry out a command.  What becomes of a run of the board is answered by `run`, which is told
whether the log is kept off the standard output. -/
def carryOut (w : Surroundings) (i : Invocation) (run : Config → Bool → Except Fault String) :
    Outcome :=
  match loadConfig w i.globals with
  | .error e => .ofFault e.toFault
  | .ok c =>
      match i.command with
      | .config => showConfig c i.globals.isJson
      | .addresses => showAddresses w i.globals.isJson
      | .preview p =>
          Preview.print (p.board c (w.facts c.sources) (w.theme i.globals.isPlain)) i.globals.isJson
      | .run isQuiet =>
          match run c isQuiet with
          | .ok output => .success output
          | .error e => .ofFault e

end StatusBoard.CommandLine
