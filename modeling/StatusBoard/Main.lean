import Std.Time.DateTime.Timestamp
import StatusBoard.CommandLine.Session
import StatusBoard.CommandLine.Usage

/-!
The program: it reads what the commands look at, carries them out and prints what they answer.

While the board runs, each device has a task that reads its input, and the loop below takes turns
between input, ticks and repaints.  The addresses of the host and the sizes of terminals cannot be
asked for from here; the board shows the fault in place of the addresses.
-/

namespace StatusBoard.Main

open CommandLine Source

/-- A failure of the system in the words of the library. -/
def ioError : IO.Error → IoError
  | .permissionDenied .. => ⟨.permissionDenied, "Permission denied (os error 13)"⟩
  | .noFileOrDirectory .. => .noSuchFile
  | e => ⟨.other, toString e⟩

def readFile (path : String) : IO File := do
  try
    return .bytes (← IO.FS.readBinFile path).data.toList
  catch
    | .noFileOrDirectory .. => return .absent
    | .inappropriateType .. => return .directory
    | e => return .refused (ioError e)

/-- The names of the variables that are looked at. -/
def variableNames : List String :=
  Config.allVariables.map Config.Variable.name ++ ["NO_COLOR", "COLUMNS", "LINES"]

/-- The outside as it is now.  Files are read under the paths that the configuration names. -/
def surroundings (g : Globals) : IO Surroundings := do
  let values ← variableNames.mapM fun name => return (name, ← IO.getEnv name)
  let path := g.path.getD Config.defaultPath
  let configFile ← readFile path
  let now ← Std.Time.Timestamp.now
  let w : Surroundings :=
    { file := fun p => if p = path then configFile else .absent
      lookup := fun name => (values.lookup name).join
      addresses := .error (.addresses "not available")
      now := now.toSecondsSinceUnixEpoch.val }
  match loadConfig w g with
  | .error _ => return w
  | .ok c =>
      let files ← [c.sources.releaseFile, c.sources.stateFile].mapM fun p =>
        return (p, ← readFile p)
      return { w with file := fun p => (files.lookup p).getD (w.file p) }

def openDevice (path : String) : IO (File × Option IO.FS.Handle) := do
  try
    return (.bytes [], some (← IO.FS.Handle.mk path .readWrite))
  catch
    | .noFileOrDirectory .. => return (.absent, none)
    | .inappropriateType .. => return (.directory, none)
    | e => return (.refused (ioError e), none)

/-- Read chunks of input until it ends. -/
partial def listen (h : IO.FS.Handle) (queue : IO.Ref (List (List UInt8))) : IO Unit := do
  let chunk ← h.read Devices.chunkSize.toUSize
  if chunk.isEmpty then return
  queue.modify (· ++ [chunk.data.toList])
  listen h queue

/-- Write to a device; a device that cannot be written is passed over. -/
def send (bytes : List UInt8) (h : IO.FS.Handle) : IO Unit := do
  try
    h.write ⟨bytes.toArray⟩
    h.flush
  catch _ => return

/-- Send what is meant for the devices and what is copied to the standard output. -/
def deliver (handles : List IO.FS.Handle) (s : Session) : IO Session := do
  let (s, frame) := s.takeOutput
  let (s, log) := s.takeMirrored
  unless frame.isEmpty do handles.forM (send frame)
  let output ← IO.getStdout
  output.write ⟨log.toArray⟩
  output.flush
  return s

/-- Milliseconds for which the loop sleeps between two turns. -/
def pauseMs : UInt32 := 50

/-- Take turns until the loop of the board has ended; the next tick is due at a point of time. -/
partial def serve (g : Globals) (handles : List IO.FS.Handle) (queue : IO.Ref (List (List UInt8)))
    (due : Nat) (s : Session) : IO Session := do
  if s.loop.isEnded then return s
  let w ← surroundings g
  let now ← IO.monoMsNow
  let (s, due) ← if due ≤ now then do
      if s.clearsNext then
        if let (_, some h) ← openDevice s.config.console.primary then
          send Terminal.Command.fullReset h
      pure (Session.tick w s, now + s.config.refresh.tickMs.toNat)
    else pure (s, due)
  let chunks ← queue.modifyGet fun q => (q, [])
  let s := chunks.foldl (fun s c => s.wake w (.input c)) s
  let s := s.wake w (if s.loop.board.isRequested then .request else .timeout)
  let s ← deliver handles s
  IO.sleep pauseMs
  serve g handles queue due s

def runBoard (g : Globals) (isQuiet : Bool) (w : Surroundings) (c : Config) : IO Outcome := do
  let opened ← c.console.devices.mapM fun path => return (path, ← openDevice path)
  let candidate (path : String) : Devices.Candidate :=
    .file ((opened.lookup path).elim .absent Prod.fst)
  let handles := opened.filterMap fun d => d.2.2
  match Session.begin w c g.isPlain isQuiet candidate .all with
  | (out, .error e) =>
      handles.forM (send out.taken)
      return .ofFault e
  | (_, .ok s) =>
      let queue ← IO.mkRef []
      for h in handles do
        let _ ← IO.asTask (listen h queue) .dedicated
      let s ← deliver handles s
      let s ← serve g handles queue (← IO.monoMsNow) s
      let _ ← deliver handles s.finish
      return .success ""

def answer (words : List String) : IO Outcome := do
  match Invocation.read words with
  | .error r => return r.outcome
  | .ok i =>
      let w ← surroundings i.globals
      match i.command, loadConfig w i.globals with
      | .run isQuiet, .ok c => runBoard i.globals isQuiet w c
      | _, _ => return carryOut w i fun _ _ => .ok ""

end StatusBoard.Main

def main (words : List String) : IO UInt32 := do
  let o ← StatusBoard.Main.answer words
  IO.print o.output
  IO.eprint o.complaint
  return o.status.toUInt32
