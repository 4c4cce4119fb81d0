import StatusBoard.CommandLine.Session
import StatusBoard.Config.Load
import StatusBoard.Proofs.Terminal.Reading

/-!
How a run leaves the console.

Binding the screen hides the cursor and clears the console.  A run that has begun shows the cursor
again at its end, whatever has happened, before it closes the devices.  Between the two the filter
may be refused, and so may the log and the ticks; then nothing more is sent and the cursor stays
hidden.
-/

namespace StatusBoard

open Terminal Source

namespace Terminal.Screen

theorem bind_of_isEndless (size : Size) (theme : Theme) {out : Stream} (h : out.IsEndless) :
    bind size theme out =
      ({ out with taken := out.taken ++ Command.encode bindCommands }, .ok (.fresh size theme)) := by
  rw [bind, Stream.send_of_isEndless h]

theorem isCursorShown_receive_bindCommands (k : Console) :
    (k.receive (Command.encode bindCommands)).display.isCursorShown = false := by
  have hplain : ∀ cmd ∈ [Command.resetColor, .clear, .moveTo 0 0], cmd.IsPlain := by
    simp [Command.IsPlain]
  rw [bindCommands, Console.receive_encode k rfl hplain]
  rfl

/-- Whatever has been sent to a console, when it has been restored it is as if it had been reset. -/
theorem display_receive_restoreCommands (k : Console) (sent : List UInt8) :
    (k.receive (sent ++ Command.encode restoreCommands)).display = .initial := by
  have hplain : ∀ cmd ∈ [Command.clear, .moveTo 0 0, .showCursor], cmd.IsPlain := by
    simp [Command.IsPlain]
  rw [restoreCommands, Console.receive_append k sent (c := .resetColor) rfl List.prefix_rfl,
    Console.receive_encode _ rfl hplain]
  rfl

end Terminal.Screen

/-! ## What is painted -/

/-- From one state of a stream to another only canvases have been drawn. -/
structure Stream.Painted (out out' : Stream) : Prop where
  isEndless : out.IsEndless → out'.IsEndless
  taken : out.IsEndless → ∃ draws : List (Screen × Canvas),
    out'.taken = out.taken ++ Command.encode (draws.flatMap fun d => d.1.drawCommands d.2)

namespace Stream.Painted

theorem refl (out : Stream) : Painted out out :=
  ⟨id, fun _ => ⟨[], (List.append_nil _).symm⟩⟩

theorem trans {out out' out'' : Stream} (h : Painted out out') (h' : Painted out' out'') :
    Painted out out'' := by
  constructor
  · intro hout
    exact h'.isEndless (h.isEndless hout)
  · intro hout
    obtain ⟨draws, htaken⟩ := h.taken hout
    obtain ⟨draws', htaken'⟩ := h'.taken (h.isEndless hout)
    refine ⟨draws ++ draws', ?_⟩
    rw [htaken', htaken, List.flatMap_append, Command.encode_append, List.append_assoc]

end Stream.Painted

namespace Board.Loop

theorem out_receive (l : Loop) (cause : Wake) : (l.receive cause).1.out = l.out := by
  cases cause with
  | input chunk =>
      rw [receive]
      split
      · rfl
      · split <;> rfl
  | _ => rfl

theorem out_adapt (l : Loop) (a : Answers) : (l.adapt a).1.out = l.out := by
  unfold adapt
  split
  split <;> rfl

theorem painted_paint (l : Loop) : Stream.Painted l.out l.paint.out := by
  let sent := Command.encode (l.board.screen.drawCommands l.board.picture)
  have hpaint : l.out.IsEndless → l.board.paint l.out =
      ((l.board.paint l.out).1, { l.out with taken := l.out.taken ++ sent }, .ok ()) := by
    intro hout
    rw [Board.paint, Screen.draw, Stream.send_of_isEndless hout]
  constructor
  · intro hout
    rw [paint, hpaint hout]
    exact hout
  · intro hout
    refine ⟨[(l.board.screen, l.board.picture)], ?_⟩
    rw [paint, hpaint hout, List.flatMap_singleton]

theorem painted_round (l : Loop) (a : Answers) (cause : Wake) :
    Stream.Painted l.out (l.round a cause).out := by
  have hadapted : ((l.receive cause).1.adapt a).1.out = l.out :=
    (out_adapt ..).trans (out_receive ..)
  unfold round
  simp only
  split
  · exact out_receive l cause ▸ .refl _
  · split
    · exact hadapted ▸ painted_paint _
    · exact hadapted ▸ .refl _

end Board.Loop

namespace CommandLine.Session

/-- Something that can happen to a run. -/
inductive Happening
  | tick (w : Surroundings)
  | wake (w : Surroundings) (cause : Board.Wake)
  | feed (w : Surroundings)
  | type (path : String) (bytes : List UInt8)
  | raise (signal : Signal)

def after (s : Session) : Happening → Session
  | .tick w => tick w s
  | .wake w cause => wake w s cause
  | .feed w => feed w s
  | .type path bytes => s.type path bytes
  | .raise signal => s.raise signal

theorem out_report (s : Session) (e : Log.Event) : (s.report e).loop.out = s.loop.out := by
  unfold Session.report
  split
  · generalize s.sink.write (some e.level.severity) (Text.Utf8.encode e.line) = written
    rfl
  · rfl

theorem consoles_report (s : Session) (e : Log.Event) : (s.report e).consoles = s.consoles := by
  unfold Session.report
  split
  · generalize s.sink.write (some e.level.severity) (Text.Utf8.encode e.line) = written
    rfl
  · rfl

/-- From one state of a run to another the devices have stayed as they were and only canvases have
been drawn on them. -/
structure Continues (s t : Session) : Prop where
  painted : Stream.Painted s.loop.out t.loop.out
  isClosed : t.consoles.isClosed = s.consoles.isClosed

namespace Continues

theorem refl (s : Session) : Continues s s := ⟨.refl _, rfl⟩

theorem trans {s t u : Session} (h : Continues s t) (h' : Continues t u) : Continues s u :=
  ⟨h.painted.trans h'.painted, h'.isClosed.trans h.isClosed⟩

theorem foldl {α : Type} {f : Session → α → Session} (hf : ∀ s a, Continues s (f s a))
    (as : List α) (s : Session) : Continues s (as.foldl f s) := by
  induction as generalizing s with
  | nil => exact .refl s
  | cons a as ih => exact (hf s a).trans (ih (f s a))

theorem of_same {s t : Session} (hout : t.loop.out = s.loop.out)
    (hconsoles : t.consoles.isClosed = s.consoles.isClosed) : Continues s t :=
  ⟨hout ▸ .refl _, hconsoles⟩

theorem report (s : Session) (e : Log.Event) : Continues s (s.report e) :=
  .of_same (out_report s e) (congrArg Devices.Consoles.isClosed (consoles_report s e))

theorem mapBoard (s : Session) (f : Board → Board) : Continues s (s.mapBoard f) := .of_same rfl rfl

theorem wake (w : Surroundings) (s : Session) (cause : Board.Wake) :
    Continues s (Session.wake w s cause) := by
  unfold Session.wake
  split
  · exact .refl s
  · have hround : Continues s { s with loop := s.loop.round (answers w s) cause } :=
      ⟨Board.Loop.painted_round .., rfl⟩
    have hemptied : Continues s { s with loop := { s.loop.round (answers w s) cause with
        events := [] } } := hround.trans (.of_same rfl rfl)
    exact hemptied.trans (.foldl report _ _)

theorem type (s : Session) (path : String) (bytes : List UInt8) :
    Continues s (s.type path bytes) := by
  have hclosed : (s.consoles.type path bytes).isClosed = s.consoles.isClosed := by
    unfold Devices.Consoles.type
    split
    · rfl
    · split
      · rfl
      · split <;> rfl
  exact .of_same rfl hclosed

theorem after (s : Session) (h : Happening) : Continues s (s.after h) := by
  cases h with
  | tick w => exact .of_same rfl rfl
  | wake w cause => exact .wake w s cause
  | feed w =>
      have htaken : Continues s { s with consoles := s.consoles.takeInput.1 } := .of_same rfl rfl
      exact htaken.trans (.foldl (fun s chunk => .wake w s (.input chunk)) _ _)
  | type path bytes => exact .type s path bytes
  | raise signal =>
      have hout : (s.raise signal).loop.out = s.loop.out := by
        unfold Session.raise
        simp only
        split <;> rfl
      exact .of_same hout rfl

end Continues

/-! ## Beginning and end -/

/-- The stream to the devices when the screen has been bound. -/
def bound : Stream := { Stream.endless with taken := Command.encode Screen.bindCommands }

theorem isClosed_openAll {isRaw : Bool} {candidates : List (String × Devices.Candidate)}
    {consoles : Devices.Consoles} (h : Devices.Consoles.openAll isRaw candidates = .ok consoles) :
    consoles.isClosed = false := by
  unfold Devices.Consoles.openAll at h
  simp only at h
  split at h
  · cases h
  · cases h
    rfl

section

variable (w : Surroundings) {c : Config} (isPlain isQuiet : Bool)
  {candidate : String → Devices.Candidate} (grants : Grants)
  {consoles : Devices.Consoles}

/-- The screen of a run that begins on open devices. -/
def firstScreen (w : Surroundings) (c : Config) (isPlain : Bool) (consoles : Devices.Consoles) :
    Screen :=
  .fresh (c.console.geometry.size consoles.size? w.size) (w.theme isPlain)

/-- What comes after a step is done exactly if the step is granted. -/
theorem bind_mapError_eq_ok_iff {asked : Except String Unit} {fault : String → Fault}
    {next : Unit → Except Fault Session} {s : Session} :
    (asked.mapError fault).bind next = .ok s ↔ asked = .ok () ∧ next () = .ok s := by
  cases asked with
  | error e =>
      refine iff_of_false (fun h => ?_) fun h => by cases h.1
      have herror : Except.error (fault e) = .ok s := h
      cases herror
  | ok _ => exact (and_iff_right rfl).symm

theorem begin_of_openAll
    (hopen : Devices.Consoles.openAll c.console.rawMode
      (c.console.devices.map fun path => (path, candidate path)) = .ok consoles) :
    (begin w c isPlain isQuiet candidate grants).1 = bound ∧
    ∀ s, (begin w c isPlain isQuiet candidate grants).2 = .ok s ↔
      ∃ filter, Log.Filter.load c.log.filter = .ok filter ∧ grants.logging = .ok () ∧
        grants.ticking = .ok () ∧
        s = opened w c isQuiet consoles (firstScreen w c isPlain consoles) bound filter := by
  have hendless : Stream.endless.IsEndless := ⟨rfl, rfl⟩
  have hbegin : begin w c isPlain isQuiet candidate grants =
      (bound, (Log.Filter.load c.log.filter).bind fun filter =>
        (grants.logging.mapError Grants.loggingFault).bind fun _ =>
        (grants.ticking.mapError Grants.tickingFault).bind fun _ =>
        .ok (opened w c isQuiet consoles (firstScreen w c isPlain consoles) bound filter)) := by
    rw [begin, hopen]
    simp only [Screen.bind_of_isEndless _ _ hendless]
    rfl
  refine ⟨congrArg Prod.fst hbegin, ?_⟩
  intro s
  rw [hbegin]
  rcases Log.Filter.load c.log.filter with e | filter
  · simp [Except.bind]
  · change (grants.logging.mapError Grants.loggingFault).bind _ = .ok s ↔ _
    rw [bind_mapError_eq_ok_iff, bind_mapError_eq_ok_iff]
    simp only [Except.ok.injEq, exists_eq_left', eq_comm]

/-- Nothing has been drawn yet when a run begins. -/
theorem continues_opened (c : Config) (consoles : Devices.Consoles) (screen : Screen)
    (out : Stream) (filter : Log.Filter) :
    ∃ s : Session, s.loop.out = out ∧ s.consoles = consoles ∧
      Continues s (opened w c isQuiet consoles screen out filter) := by
  let s : Session := ⟨c, consoles, .start (.start screen c.log.maxLines.toNat) out, .start false,
    ⟨c.log.markers, mirror c isQuiet⟩, filter⟩
  have hskipped : Continues s ((consoles.skipped.map skipping).foldl Session.report
      (s.report (starting c (consoles.devices.map Devices.Device.path)))) :=
    (Continues.report s _).trans (.foldl .report _ _)
  have hfilled := hskipped.trans (.mapBoard _ (·.apply (w.facts c.sources)))
  refine ⟨s, rfl, rfl, ?_⟩
  rw [opened]
  exact hfilled.trans (.report _ (tickingStarted c))

/-- A run gives the console back: what it has drawn is followed by what restores the console, while
the devices are open, and by nothing else. -/
structure GivesBack (s : Session) : Prop where
  restored : ∃ draws : List (Screen × Canvas), s.giveBack.loop.out.taken =
    Command.encode (Screen.bindCommands ++ (draws.flatMap fun d => d.1.drawCommands d.2) ++
      Screen.restoreCommands)
  isOpen : s.giveBack.consoles.isClosed = false
  isClosed : s.finish.consoles.isClosed = true
  out_finish : s.finish.loop.out = s.giveBack.loop.out
  display : ∀ k : Console, (k.receive s.finish.loop.out.taken).display = .initial

theorem taken_giveBack {s : Session} (h : s.loop.out.IsEndless) :
    s.giveBack.loop.out.taken = s.loop.out.taken ++ Command.encode Screen.restoreCommands := by
  rw [giveBack, Board.restore, Screen.restore, out_report, Stream.send_of_isEndless h]

theorem consoles_giveBack (s : Session) : s.giveBack.consoles = s.consoles := by
  rw [giveBack]
  exact consoles_report ..

theorem GivesBack.of_continues {s t : Session} (h : Continues s t) (hout : s.loop.out = bound)
    (hopen : s.consoles.isClosed = false) : GivesBack t := by
  have hendless : s.loop.out.IsEndless := hout ▸ ⟨rfl, rfl⟩
  obtain ⟨draws, hdraws⟩ := h.painted.taken hendless
  have hrestored := taken_giveBack (h.painted.isEndless hendless)
  have hfinish : t.finish.loop.out = t.giveBack.loop.out := out_report ..
  refine ⟨⟨draws, ?_⟩, ?_, ?_, hfinish, ?_⟩
  · rw [hrestored, hdraws, hout, Command.encode_append, Command.encode_append]
    rfl
  · rw [consoles_giveBack, h.isClosed, hopen]
  · rw [finish, release, consoles_report]
    rfl
  · intro k
    rw [hfinish, hrestored]
    exact Screen.display_receive_restoreCommands k _

/-- Once the devices are open and the screen is bound, a run begins if the filter can be read and
neither the log nor the ticks are refused, and then it gives the console back, whatever happens to
it.  If it does not begin, the cursor has been hidden and nothing is sent after that. -/
theorem gives_back_iff_begun
    (hopen : Devices.Consoles.openAll c.console.rawMode
      (c.console.devices.map fun path => (path, candidate path)) = .ok consoles) :
    ((∃ s, (begin w c isPlain isQuiet candidate grants).2 = .ok s) ↔
      (∃ filter, Log.Filter.load c.log.filter = .ok filter) ∧ grants.logging = .ok () ∧
        grants.ticking = .ok ()) ∧
    (∀ s, (begin w c isPlain isQuiet candidate grants).2 = .ok s →
      ∀ course : List Happening, GivesBack (course.foldl after s)) ∧
    (∀ e, (begin w c isPlain isQuiet candidate grants).2 = .error e →
      (begin w c isPlain isQuiet candidate grants).1.taken =
        Command.encode Screen.bindCommands ∧
      ∀ k : Console,
        (k.receive
          (begin w c isPlain isQuiet candidate grants).1.taken).display.isCursorShown = false) := by
  obtain ⟨hsent, hbegun⟩ := begin_of_openAll w isPlain isQuiet grants hopen
  refine ⟨?_, ?_, ?_⟩
  · constructor
    · rintro ⟨s, hs⟩
      obtain ⟨filter, hfilter, hlogging, hticking, -⟩ := (hbegun s).mp hs
      exact ⟨⟨filter, hfilter⟩, hlogging, hticking⟩
    · rintro ⟨⟨filter, hfilter⟩, hlogging, hticking⟩
      exact ⟨_, (hbegun _).mpr ⟨filter, hfilter, hlogging, hticking, rfl⟩⟩
  · intro s hs course
    obtain ⟨filter, -, -, -, rfl⟩ := (hbegun s).mp hs
    obtain ⟨s₀, hout, hsame, hopened⟩ := continues_opened w isQuiet c consoles
      (firstScreen w c isPlain consoles) bound filter
    exact .of_continues (hopened.trans (.foldl .after course _)) hout
      (hsame ▸ isClosed_openAll hopen)
  · intro e _
    rw [hsent]
    exact ⟨rfl, Screen.isCursorShown_receive_bindCommands⟩

end

/-- A host without files or variables. -/
def emptyHost : Surroundings := ⟨fun _ => .absent, fun _ => none, .ok [], 0⟩

def onTerminal (_ : String) : Devices.Candidate := .terminal 80 24

theorem gives_back_after_signal :
    (∃ consoles, Devices.Consoles.openAll Config.standard.console.rawMode
      (Config.standard.console.devices.map fun path => (path, onTerminal path)) = .ok consoles) ∧
    ∃ s, (begin emptyHost .standard false false onTerminal .all).2 = .ok s ∧
      GivesBack ([Happening.tick emptyHost, .wake emptyHost .request, .raise .terminate].foldl
        after s) := by
  obtain ⟨consoles, hopen⟩ : ∃ consoles, Devices.Consoles.openAll Config.standard.console.rawMode
      (Config.standard.console.devices.map fun path => (path, onTerminal path)) = .ok consoles :=
    ⟨_, rfl⟩
  obtain ⟨hbegun, hgives, -⟩ := gives_back_iff_begun emptyHost false false .all hopen
  obtain ⟨s, hs⟩ := hbegun.mpr ⟨⟨.info, by rfl⟩, rfl, rfl⟩
  exact ⟨⟨consoles, hopen⟩, s, hs, hgives s hs _⟩

/-- A host with a filter in its environment that cannot be read. -/
def brokenFilter (name : String) : Option String :=
  if name = "OSD_CONSOLE_LOG" then some "a=b=c" else none

def brokenConfig : Config :=
  { Config.standard with log := { Config.Logging.standard with filter := "a=b=c" } }

/-- A configuration with such a filter is accepted, the run fails after it has hidden the cursor,
and the console is not restored. -/
theorem cursor_hidden_by_broken_filter :
    Config.load none .absent brokenFilter = .ok brokenConfig ∧
    (∃ e, (begin emptyHost brokenConfig false false onTerminal .all).2 = .error e) ∧
    ¬Command.encode Screen.restoreCommands <:+
      (begin emptyHost brokenConfig false false onTerminal .all).1.taken ∧
    (Console.receive ⟨.initial, .ground⟩
      (begin emptyHost brokenConfig false false onTerminal .all).1.taken).display.isCursorShown =
        false := by
  refine ⟨by rfl, ⟨_, rfl⟩, by decide +kernel, by decide +kernel⟩

end CommandLine.Session

end StatusBoard
