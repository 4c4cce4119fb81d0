import StatusBoard.Board.Loop
import StatusBoard.Board.Ticker
import StatusBoard.Config.Basic
import StatusBoard.Config.Render
import StatusBoard.Devices.Consoles
import StatusBoard.Log.Filter
import StatusBoard.Log.Sink
import StatusBoard.Shutdown
import StatusBoard.Source.Surroundings
import StatusBoard.Text.Quoted

/-!
A run of the board on the consoles, from opening the devices to closing them.

The board reports what happens to it in events.  Those that the filter lets through are logged on
the board itself and copied to the mirror of the log.
-/

namespace StatusBoard.CommandLine

open Source Text

/-- A run that has begun. -/
structure Session where
  config : Config
  consoles : Devices.Consoles
  loop : Board.Loop
  ticker : Board.Ticker
  sink : Log.Sink
  filter : Log.Filter

namespace Session

def target : String := "osd_console::cli_app"

def tickTarget : String := "osd_console::daemon::scheduler"

def pathsText (paths : List String) : String := "[" ++ ", ".intercalate (paths.map quoted) ++ "]"

def starting (c : Config) (paths : List String) : Log.Event :=
  ⟨.info, target, "console dashboard starting",
    [("config_hash", c.fingerprint), ("devices", pathsText paths)]⟩

/-- Reported for a device that could not be opened. -/
def skipping (d : Devices.Skipped) : Log.Event :=
  ⟨.debug, target, "console device skipped", [("device", d.path), ("reason", d.reason)]⟩

def tickingStarted (c : Config) : Log.Event :=
  ⟨.debug, tickTarget, "redraw scheduler started",
    [("interval_ms", toString c.refresh.tickMs.toNat),
      ("clear_every", toString c.refresh.clearEvery)]⟩

def tickingStopped (t : Board.Ticker) : Log.Event :=
  ⟨.debug, tickTarget, "redraw scheduler stopped", [("ticks", toString t.ticks.toNat)]⟩

def stopped : Log.Event := ⟨.info, target, "console dashboard stopped", []⟩

def mapBoard (s : Session) (f : Board → Board) : Session :=
  { s with loop := { s.loop with board := f s.loop.board } }

def report (s : Session) (e : Log.Event) : Session :=
  if s.filter.accepts e then
    let (sink, receipt) := s.sink.write (some e.level.severity) (Utf8.encode e.line)
    { s with sink }.mapBoard fun b => receipt.record.elim b b.append
  else s

def reportAll (s : Session) : Session :=
  s.loop.events.foldl report { s with loop := { s.loop with events := [] } }

/-- The mirror of the log: the standard output, unless the log is kept off it. -/
def mirror (c : Config) (isQuiet : Bool) : Option Stream :=
  if c.log.mirrored && !isQuiet then some .endless else none

/-- A run whose devices have been opened and whose screen has been bound, with the board filled and
the ticks started. -/
def opened (w : Surroundings) (c : Config) (isQuiet : Bool) (consoles : Devices.Consoles)
    (screen : Terminal.Screen) (out : Stream) (filter : Log.Filter) : Session :=
  let session : Session :=
    { config := c
      consoles
      loop := .start (.start screen c.log.maxLines.toNat) out
      ticker := .start false
      sink := ⟨c.log.markers, mirror c isQuiet⟩
      filter }
  let session := session.report (starting c (consoles.devices.map Devices.Device.path))
  let session := (consoles.skipped.map skipping).foldl report session
  (session.mapBoard (·.apply (w.facts c.sources))).report (tickingStarted c)

/-- What the process may refuse to a run, with the cause: the log, if it has been taken before, and
a thread for the ticks. -/
structure Grants where
  logging : Except String Unit
  ticking : Except String Unit

namespace Grants

def all : Grants := ⟨.ok (), .ok ()⟩

def loggingFault (cause : String) : Fault :=
  .runtime ("tracing subscriber already installed: " ++ cause)

def tickingFault (cause : String) : Fault := .runtime ("failed to spawn redraw thread: " ++ cause)

end Grants

/-- Begin a run: open the devices, bind the screen, load the filter, take the log and start the
ticks; each of them may fail.  What has been sent to the devices by then is given as well. -/
def begin (w : Surroundings) (c : Config) (isPlain isQuiet : Bool)
    (candidate : String → Devices.Candidate) (grants : Grants) : Stream × Except Fault Session :=
  match Devices.Consoles.openAll c.console.rawMode
      (c.console.devices.map fun path => (path, candidate path)) with
  | .error e => (.endless, .error e)
  | .ok consoles =>
      let size := c.console.geometry.size consoles.size? w.size
      let (out, bound) := Terminal.Screen.bind size (w.theme isPlain) .endless
      (out, do
        let screen ← bound
        let filter ← Log.Filter.load c.log.filter
        grants.logging.mapError Grants.loggingFault
        grants.ticking.mapError Grants.tickingFault
        return opened w c isQuiet consoles screen out filter)

/-- Begin a run to which nothing is refused. -/
def start (w : Surroundings) (c : Config) (isPlain isQuiet : Bool)
    (candidate : String → Devices.Candidate) : Except Fault Session :=
  (begin w c isPlain isQuiet candidate .all).2

def clearsNext (s : Session) : Bool := s.ticker.clearsNext s.config.refresh.clearEvery

def tick (w : Surroundings) (s : Session) : Session :=
  let (ticker, board) := s.ticker.prepare s.config.refresh.clearEvery s.loop.board
  let (ticker, board) := ticker.complete board (w.facts s.config.sources)
  { s with ticker }.mapBoard fun _ => board

def answers (w : Surroundings) (s : Session) : Board.Answers :=
  ⟨s.config.console.geometry.size s.consoles.size? w.size, w.facts s.config.sources⟩

/-- One round of the event loop, unless it has ended. -/
def wake (w : Surroundings) (s : Session) (cause : Board.Wake) : Session :=
  if s.loop.isEnded then s
  else { s with loop := s.loop.round (answers w s) cause }.reportAll

/-- A round for every chunk of input that has arrived. -/
def feed (w : Surroundings) (s : Session) : Session :=
  let (consoles, chunks) := s.consoles.takeInput
  chunks.foldl (fun s chunk => wake w s (.input chunk)) { s with consoles }

def type (s : Session) (path : String) (bytes : List UInt8) : Session :=
  { s with consoles := s.consoles.type path bytes }

/-- Take a signal: one of them forces a repaint at the next tick, the others end the run. -/
def raise (s : Session) (signal : Signal) : Session :=
  let asked := Requests.none.raise signal
  { s with
    ticker := { s.ticker with isForced := s.ticker.isForced || asked.repaint }
    loop := if asked.shutdown then s.loop.stop else s.loop }

/-- Take the bytes that are meant for the devices. -/
def takeOutput (s : Session) : Session × List UInt8 :=
  ({ s with loop := { s.loop with out := { s.loop.out with taken := [] } } }, s.loop.out.taken)

/-- Leave the console to others. -/
def giveBack (s : Session) : Session :=
  let s := s.report (tickingStopped s.ticker)
  let (board, out, _) := s.loop.board.restore s.loop.out
  { s with loop := { s.loop with board, out } }

/-- Close the devices. -/
def release (s : Session) : Session := { s with consoles := s.consoles.close }.report stopped

/-- End the run: the console is given back before the devices are closed. -/
def finish (s : Session) : Session := s.giveBack.release

/-- The text that has been copied to the mirror. -/
def mirrored (s : Session) : String := Utf8.decodeLossy ((s.sink.mirror.map Stream.taken).getD [])

/-- Take the bytes that have been copied to the mirror. -/
def takeMirrored (s : Session) : Session × List UInt8 :=
  ({ s with sink := { s.sink with mirror := s.sink.mirror.map ({ · with taken := [] }) } },
    (s.sink.mirror.map Stream.taken).getD [])

/-- A whole run: after the first tick and the first frame something is typed on a terminal, and
then signals arrive. -/
def play (w : Surroundings) (s : Session) (path : String) (typed : List UInt8)
    (signals : List Signal) : Session :=
  let s := (wake w (tick w s) .request).type path typed
  (signals.foldl raise (feed w s)).finish

end Session

end StatusBoard.CommandLine
