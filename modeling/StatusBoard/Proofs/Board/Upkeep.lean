import StatusBoard.Board.Ticker
import StatusBoard.Proofs.Board.Interleaving
import StatusBoard.Proofs.Terminal.Sending

/-!
Ticks that run beside the event loop.

A tick resets the console without asking for the board, so that the bytes can come in the middle of
a draw; only forgetting what is shown has to wait until the draw is over.  A request to send every
row again may come at any moment.  A `Run` is the list of what has happened, whichever thread did
it, and properties of ticks and draws are properties of such lists.
-/

namespace StatusBoard.Board

open Terminal (Command Screen Theme)

/-- Where the scheduler is in its tick. -/
inductive Stage
  | ready
  | clearing
  | invalidating
  | asking
  | refreshing
  | announcing
  | counting
  | resting
  | ended
  deriving DecidableEq

/-- What a tick begins with. -/
def Stage.first (clears isForced : Bool) : Stage :=
  if clears then .clearing else if isForced then .invalidating else .refreshing

/-- A draw in progress. -/
structure Drawing where
  picture : Canvas
  unsent : List UInt8

def Drawing.begin (b : Board) : Drawing :=
  ⟨b.picture, Command.encode (b.screen.drawCommands b.picture)⟩

/-- The board between its scheduler, its event loop and whoever else changes it. -/
structure Upkeep where
  board : Board
  ticker : Ticker
  stage : Stage
  drawing : Option Drawing
  /-- What the console has been sent that the scheduler resets. -/
  console : List UInt8

/-- What can happen. -/
inductive Event
  | hangup
  | begin (isForced : Bool)
  | reset (part : List UInt8)
  | invalidate
  | refresh
  | complete
  | draw (picture : Canvas) (base : Option Canvas)
  | send (bytes : List UInt8)
  | drawn
  | abandon
  | other

namespace Upkeep

def start (b : Board) (isForced : Bool) : Upkeep := ⟨b, .start isForced, .ready, none, []⟩

def mapBoard (s : Upkeep) (f : Board → Board) : Upkeep := { s with board := f s.board }

def go (s : Upkeep) (stage : Stage) : Upkeep := { s with stage }

/-- The request is taken, whether it decides anything in this tick or not. -/
def begun (s : Upkeep) (every : Nat) : Upkeep :=
  { s with
    ticker.isForced := false
    stage := .first (s.ticker.clearsNext every) s.ticker.isForced }

/-- One step.  What looks at the board or changes what it shows waits until no draw is in progress;
resetting the console, asking for a repaint and hangups do not. -/
inductive Step (every : Nat) : Upkeep → Event → Upkeep → Prop
  | hangup {s : Upkeep} : Step every s .hangup { s with ticker.isForced := true }
  | begin {s : Upkeep} :
      s.stage = .ready → Step every s (.begin s.ticker.isForced) (s.begun every)
  | reset {s : Upkeep} (part : List UInt8) :
      s.stage = .clearing → part <+: Command.fullReset →
      Step every s (.reset part) { s with console := s.console ++ part, stage := .invalidating }
  | invalidate {s : Upkeep} :
      s.stage = .invalidating → s.drawing = none →
      Step every s .invalidate ((s.mapBoard forget).go .asking)
  | ask {s : Upkeep} :
      s.stage = .asking → Step every s .other ((s.mapBoard request).go .refreshing)
  | refresh {s : Upkeep} (d : Frame.Facts) :
      s.stage = .refreshing → s.drawing = none →
      Step every s .refresh ((s.mapBoard (setFacts · d)).go .announcing)
  | announce {s : Upkeep} :
      s.stage = .announcing → Step every s .other ((s.mapBoard request).go .counting)
  | complete {s : Upkeep} :
      s.stage = .counting →
      Step every s .complete { s with ticker.ticks := s.ticker.ticks + 1, stage := .resting }
  | rest {s : Upkeep} : s.stage = .resting → Step every s .other (s.go .ready)
  | stop {s : Upkeep} : s.stage = .resting → Step every s .other (s.go .ended)
  | change {s : Upkeep} (c : Change) :
      s.drawing = none → Step every s .other (s.mapBoard c.apply)
  | request {s : Upkeep} : Step every s .other (s.mapBoard request)
  | take {s : Upkeep} : Step every s .other (s.mapBoard fun b => b.takeRequest.1)
  | draw {s : Upkeep} :
      s.drawing = none →
      Step every s (.draw s.board.picture (s.board.screen.base s.board.picture))
        { s with drawing := some (.begin s.board) }
  | send {s : Upkeep} {d : Drawing} (n : Nat) :
      s.drawing = some d →
      Step every s (.send (d.unsent.take n))
        { s with
          drawing := some { d with unsent := d.unsent.drop n }
          console := s.console ++ d.unsent.take n }
  | drawn {s : Upkeep} {c : Canvas} :
      s.drawing = some ⟨c, []⟩ →
      Step every s .drawn { s with board.screen.shown := some c, drawing := none }
  | abandon {s : Upkeep} {d : Drawing} :
      s.drawing = some d → Step every s .abandon { s with drawing := none }

inductive Run (every : Nat) : Upkeep → List Event → Upkeep → Prop
  | nil {s : Upkeep} : Run every s [] s
  | cons {s t u : Upkeep} {e : Event} {es : List Event} :
      Step every s e t → Run every t es u → Run every s (e :: es) u

variable {every : Nat} {s t u : Upkeep} {e : Event} {es es' : List Event}

theorem Run.split (h : Run every s (es ++ es') u) : ∃ t, Run every s es t ∧ Run every t es' u := by
  induction es generalizing s with
  | nil => exact ⟨s, .nil, h⟩
  | cons e es ih =>
      cases h with
      | cons hstep hrest =>
          obtain ⟨t, hes, hes'⟩ := ih hrest
          exact ⟨t, .cons hstep hes, hes'⟩

/-- The step of an event in the middle of a run. -/
theorem Run.split_cons (h : Run every s (es ++ e :: es') u) :
    ∃ t t', Run every s es t ∧ Step every t e t' ∧ Run every t' es' u := by
  obtain ⟨t, hbefore, hrest⟩ := h.split
  cases hrest with
  | cons hstep hafter => exact ⟨t, _, hbefore, hstep, hafter⟩

theorem Run.append (h : Run every s es t) (h' : Run every t es' u) :
    Run every s (es ++ es') u := by
  induction h with
  | nil => exact h'
  | cons hstep _ ih => exact .cons hstep (ih h')

/-- What each step keeps of a state and the events before it holds after a run. -/
theorem Run.invariant {I : List Event → Upkeep → Prop}
    (hstep : ∀ es s e t, I es s → Step every s e t → I (es ++ [e]) t) (h : Run every s es t)
    (hs : I [] s) : I es t := by
  have hfrom : ∀ es', I es' s → I (es' ++ es) t := by
    clear hs
    induction h with
    | nil =>
        intro es' hs
        rwa [List.append_nil]
    | cons hst _ ih =>
        intro es' hs
        rw [List.append_cons]
        exact ih _ (hstep _ _ _ _ hs hst)
  exact hfrom [] hs

/-- What is kept by every step but those of one kind is kept as long as none of these is made. -/
theorem Run.keeps {I : Upkeep → Prop} {p : Event → Prop}
    (hstep : ∀ s e t, I s → ¬ p e → Step every s e t → I t) (h : Run every s es t)
    (hes : ∀ e ∈ es, ¬ p e) (hs : I s) : I t := by
  refine h.invariant (I := fun es t => (∀ e ∈ es, ¬ p e) → I t) ?_ (fun _ => hs) hes
  intro es s e t ih hst hes
  rw [List.forall_mem_append, List.forall_mem_singleton] at hes
  exact hstep s e t (ih hes.1) hes.2 hst

theorem Step.sendAll {d : Drawing} (h : s.drawing = some d) (every : Nat) :
    Step every s (.send d.unsent)
      { s with drawing := some ⟨d.picture, []⟩, console := s.console ++ d.unsent } := by
  have hsend : Step every s _ _ := .send d.unsent.length h
  rwa [List.drop_length, List.take_length] at hsend

/-! ## Ticks and draws on their own -/

theorem run_invalidate (hstage : s.stage = .invalidating) (hfree : s.drawing = none)
    (every : Nat) :
    Run every s [.invalidate, .other] ((s.mapBoard Board.invalidate).go .refreshing) :=
  .cons (.invalidate hstage hfree) (.cons (.ask rfl) .nil)

theorem exists_run_refresh (hstage : s.stage = .refreshing) (hfree : s.drawing = none) (every : Nat)
    (d : Frame.Facts) :
    ∃ t, Run every s [.refresh, .other, .complete] t ∧ t.stage = .resting ∧ t.drawing = none ∧
      (t.ticker, t.board) = s.ticker.complete s.board d :=
  ⟨_, .cons (.refresh d hstage hfree) (.cons (.announce rfl) (.cons (.complete rfl) .nil)), rfl,
    hfree, rfl⟩

/-- If nothing comes between, a tick does what preparing and completing it does. -/
theorem exists_run_tick (hready : s.stage = .ready) (hfree : s.drawing = none) (every : Nat)
    (d : Frame.Facts) :
    ∃ es t, Run every s es t ∧ t.stage = .resting ∧ t.drawing = none ∧
      (t.ticker, t.board) =
        (s.ticker.prepare every s.board).1.complete (s.ticker.prepare every s.board).2 d := by
  have hprepare : ∃ es u, Run every s es u ∧ u.stage = .refreshing ∧ u.drawing = none ∧
      (u.ticker, u.board) = s.ticker.prepare every s.board := by
    have hbegin : Step every s (.begin s.ticker.isForced) (s.begun every) := .begin hready
    rw [Ticker.prepare]
    cases hclears : s.ticker.clearsNext every with
    | true =>
        have hstage : (s.begun every).stage = .clearing := by simp [begun, Stage.first, hclears]
        let cleared : Upkeep :=
          { s.begun every with console := s.console ++ Command.fullReset, stage := .invalidating }
        have hreset : Step every (s.begun every) (.reset Command.fullReset) cleared :=
          .reset Command.fullReset hstage List.prefix_rfl
        have hinvalidate := run_invalidate (s := cleared) rfl hfree every
        exact ⟨_, _, .cons hbegin (.cons hreset hinvalidate), rfl, hfree, rfl⟩
    | false =>
        cases hforced : s.ticker.isForced with
        | true =>
            have hstage : (s.begun every).stage = .invalidating := by
              simp [begun, Stage.first, hclears, hforced]
            have hinvalidate := run_invalidate hstage hfree every
            exact ⟨_, _, .cons hbegin hinvalidate, rfl, hfree, rfl⟩
        | false =>
            have hstage : (s.begun every).stage = .refreshing := by
              simp [begun, Stage.first, hclears, hforced]
            exact ⟨_, _, .cons hbegin .nil, hstage, hfree, rfl⟩
  obtain ⟨es, u, hrun, hstage, hfree', hprepared⟩ := hprepare
  obtain ⟨t, hrun', hresting, hfree'', hcompleted⟩ := exists_run_refresh hstage hfree' every d
  refine ⟨_, t, hrun.append hrun', hresting, hfree'', ?_⟩
  rw [hcompleted, ← hprepared]

/-- If nothing comes between, a draw shows what painting on a stream without end does. -/
theorem exists_run_draw (hfree : s.drawing = none) (every : Nat) :
    ∃ es t, Run every s es t ∧ t.drawing = none ∧ t.ticker = s.ticker ∧ t.stage = s.stage ∧
      (t.board, Stream.mk none t.console true, .ok ()) =
        s.board.paint (Stream.mk none s.console true) := by
  refine ⟨_, _, .cons (.draw hfree) (.cons (.sendAll rfl every) (.cons (.drawn rfl) .nil)), rfl,
    rfl, rfl, ?_⟩
  have hendless : Stream.IsEndless ⟨none, s.console, true⟩ := ⟨rfl, rfl⟩
  rw [Board.paint, Screen.draw, Stream.send_of_isEndless hendless]
  rfl

end Upkeep

end StatusBoard.Board
