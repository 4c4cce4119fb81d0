import StatusBoard.CommandLine.Session
import StatusBoard.Proofs.Board.Interleaving
import StatusBoard.Proofs.Text.Utf8

/-!
The loop logs on the board that it paints.

What the loop reports is written to the sink before it goes on: the record comes to the board, a
repaint is asked for, and then the text is copied to the mirror.  A `Feedback` is the system with
this sink behind its loop.  Between any two steps a thread may have its turn, and the console and
the mirror may begin or cease to take what is written.
-/

namespace StatusBoard.Board

/-- A step of the loop: how the paint ended, if it is one, and what was reported. -/
structure Turn where
  outcome? : Option (Except IoError Unit)
  reported : List Log.Event

/-- How far an event has been written.  The number is that of the change that has put it on the
board. -/
inductive Writing
  | idle
  | asking (e : Log.Event) (k : Nat)
  | copying (e : Log.Event)

/-- The loop, the threads and the sink that the loop writes to.  No step looks at the turns and at
what has been logged. -/
structure Feedback (ι : Type) where
  system : System ι
  sink : Log.Sink
  /-- The events that have been reported and not been written. -/
  waiting : List Log.Event
  writing : Writing
  turns : List Turn
  /-- The events that have been written, each with the number of the change. -/
  logged : List (Log.Event × Nat)

/-- What has been reported between two states of the loop. -/
def Loop.reported (l l' : Loop) : List Log.Event := l'.events.drop l.events.length

/-- Take note of how a paint has ended, and report a failure unless the paint before failed too. -/
def Loop.settle (l : Loop) (board : Board) (out : Stream) : Except IoError Unit → Loop
  | .ok () => { l with board, out, isFailing := false }
  | .error e =>
      let l' : Loop := { l with board, out, isFailing := true }
      if l.isFailing then l' else l'.report (Loop.paintFailed e)

namespace System

variable {ι : Type}

/-- How a paint ends that starts now, if the loop is about to paint. -/
def outcome? (s : System ι) : Option (Except IoError Unit) :=
  if s.phase = .painting then some (s.loop.board.paint s.loop.out).2.2 else none

/-- The loop paints and the console fails in some other way; what it showed is still taken to be
shown. -/
def fail (s : System ι) (out : Stream) (cause : IoError) : System ι :=
  { s with
    loop := s.loop.settle s.loop.board out (.error cause)
    attempts := s.attempts ++ [s.attempt] }

end System

namespace Feedback

variable {ι : Type}

def start (b : Board) (out : Stream) (sink : Log.Sink) : Feedback ι :=
  ⟨.initial b out, sink, [], .idle, [], []⟩

def follow (s : Feedback ι) (t : System ι) : Feedback ι := { s with system := t }

def advance (s : Feedback ι) (outcome? : Option (Except IoError Unit)) (t : System ι) :
    Feedback ι :=
  { s with
    system := t
    waiting := s.system.loop.reported t.loop
    turns := s.turns ++ [⟨outcome?, s.system.loop.reported t.loop⟩] }

def turn (s : Feedback ι) (t : System ι) : Feedback ι := s.advance s.system.outcome? t

def skip (s : Feedback ι) (rest : List Log.Event) : Feedback ι := { s with waiting := rest }

def log (s : Feedback ι) (e : Log.Event) (r : Log.Record) (rest : List Log.Event) : Feedback ι :=
  { s with
    system := s.system.change (.record r)
    waiting := rest
    writing := .asking e s.system.history.length
    logged := s.logged ++ [(e, s.system.history.length)] }

def ask (s : Feedback ι) (e : Log.Event) (k : Nat) : Feedback ι :=
  { s with system := s.system.ask k, writing := .copying e }

def copy (s : Feedback ι) (e : Log.Event) : Feedback ι :=
  { s with sink := (s.sink.copy (Text.Utf8.encode e.line)).1, writing := .idle }

/-- The console and the mirror begin or cease to take what is written. -/
def disturb (s : Feedback ι) (out : Stream) (mirror : Option Stream) : Feedback ι :=
  { s with system.loop.out := out, sink.mirror := mirror }

/-- One step of a thread, of the loop, of the sink or of what is behind the streams.  The steps of
the loop are those that lead to another phase, and it makes none while it writes.  Only the loop
looks at whether it has been told to end, so it does not matter that the key that ends it does so
before this has been logged. -/
inductive Step [DecidableEq ι] (f : Log.Filter) : Feedback ι → Feedback ι → Prop
  | thread {s : Feedback ι} {t : System ι} :
      System.Step s.system t → t.phase = s.system.phase → Step f s (s.follow t)
  | turn {s : Feedback ι} {t : System ι} :
      s.waiting = [] → s.writing = .idle →
      System.Step s.system t → t.phase ≠ s.system.phase → Step f s (s.turn t)
  | fail {s : Feedback ι} (out : Stream) (cause : IoError) :
      s.waiting = [] → s.writing = .idle → s.system.phase = .painting →
      Step f s (s.advance (some (.error cause)) ((s.system.fail out cause).go .checking))
  | skip {s : Feedback ι} (e : Log.Event) (rest : List Log.Event) :
      s.writing = .idle → s.waiting = e :: rest → f.accepts e = false → Step f s (s.skip rest)
  | log {s : Feedback ι} (e : Log.Event) (r : Log.Record) (rest : List Log.Event) :
      s.writing = .idle → s.waiting = e :: rest → f.accepts e = true →
      s.sink.record (some e.level.severity) (Text.Utf8.encode e.line) = r →
      Step f s (s.log e r rest)
  | ask {s : Feedback ι} (e : Log.Event) (k : Nat) :
      s.writing = .asking e k → Step f s (s.ask e k)
  | copy {s : Feedback ι} (e : Log.Event) : s.writing = .copying e → Step f s (s.copy e)
  | disturb {s : Feedback ι} (out : Stream) (mirror : Option Stream) :
      Step f s (s.disturb out mirror)

def Reachable [DecidableEq ι] (f : Log.Filter) (b : Board) (out : Stream) (sink : Log.Sink)
    (s : Feedback ι) : Prop :=
  Relation.ReflTransGen (Step f) (start b out sink) s

end Feedback

/-! ## Writing an event -/

theorem encode_line_ne_nil (e : Log.Event) : Text.Utf8.encode e.line ≠ [] := by
  intro hnil
  have hline : e.line = "" := by
    rw [← Text.Utf8.decodeLossy_encode e.line, hnil]
    rfl
  have hlast := congrArg String.toList hline
  rw [Log.Event.line, String.toList_append] at hlast
  exact absurd hlast (List.append_ne_nil_of_right_ne_nil _ (by decide))

/-- The record that the sink makes of an event is the one of the event. -/
theorem record_line (sink : Log.Sink) (e : Log.Event) :
    sink.record (some e.level.severity) (Text.Utf8.encode e.line) = e.record := by
  rw [Log.Sink.record, Option.getD_some, Text.Utf8.decodeLossy_encode, Log.Event.record]

/-- In a session an event that is let through goes to the board and to the mirror. -/
theorem report_of_accepts {session : CommandLine.Session} {e : Log.Event}
    (h : session.filter.accepts e = true) :
    (session.report e).loop.board = session.loop.board.append e.record ∧
      (session.report e).sink = (session.sink.copy (Text.Utf8.encode e.line)).1 := by
  have hreport : session.report e =
      ({ session with sink := (session.sink.copy (Text.Utf8.encode e.line)).1 }
        : CommandLine.Session).mapBoard (·.append e.record) := by
    rw [CommandLine.Session.report, if_pos h, Log.Sink.write, if_neg (encode_line_ne_nil e),
      record_line]
    rfl
  rw [hreport]
  exact ⟨rfl, rfl⟩

namespace Feedback

variable {ι : Type} [DecidableEq ι]

open Relation (ReflTransGen)

/-- Reporting an event in a session is made of one step if it is not let through, and of three if
it is. -/
theorem exists_steps_report {s : Feedback ι} {session : CommandLine.Session}
    {e : Log.Event} {rest : List Log.Event} (hidle : s.writing = .idle)
    (hwaiting : s.waiting = e :: rest) (hboard : session.loop.board = s.system.loop.board)
    (hsink : session.sink = s.sink) :
    ∃ t, ReflTransGen (Step session.filter) s t ∧ t.writing = .idle ∧ t.waiting = rest ∧
      t.system.loop = { s.system.loop with board := (session.report e).loop.board } ∧
      t.sink = (session.report e).sink := by
  cases haccepts : session.filter.accepts e with
  | false =>
      have hreport : session.report e = session := by
        rw [CommandLine.Session.report, haccepts]
        rfl
      rw [hreport, hboard, hsink]
      exact ⟨s.skip rest, .single (.skip e rest hidle hwaiting haccepts), hidle, rfl, rfl, rfl⟩
  | true =>
      obtain ⟨hreported, hcopied⟩ := report_of_accepts haccepts
      generalize hr : e.record = r at hreported
      have hlog := Step.log e r rest hidle hwaiting haccepts ((record_line s.sink e).trans hr)
      have hask : Step session.filter (s.log e r rest) _ := .ask e s.system.history.length rfl
      have hcopy : Step session.filter ((s.log e r rest).ask e s.system.history.length) _ :=
        .copy e rfl
      rw [hreported, hcopied, hboard, hsink]
      refine ⟨_, ((ReflTransGen.single hlog).tail hask).tail hcopy, rfl, rfl, ?_, ?_⟩
      · rw [copy, ask, log, System.ask, System.change]
        rfl
      · rw [copy, ask, log]

end Feedback

/-! ## Steps of the loop -/

theorem Loop.paint_eq_settle (l : Loop) :
    l.paint = l.settle (l.board.paint l.out).1 (l.board.paint l.out).2.1
      (l.board.paint l.out).2.2 := by
  unfold Loop.paint
  rcases l.board.paint l.out with ⟨board, out, e | ⟨⟩⟩
  · rfl
  · rfl

/-- A paint that succeeds ends a failure, and one that fails begins it unless it lasts already. -/
theorem Loop.settle_cases (l : Loop) (board : Board) (out : Stream) (r : Except IoError Unit) :
    (r = .ok () ∧ (l.settle board out r).isFailing = false ∧
        (l.settle board out r).events = l.events) ∨
      ∃ e, r = .error e ∧ (l.settle board out r).isFailing = true ∧
        (l.settle board out r).events =
          l.events ++ if l.isFailing then [] else [Loop.paintFailed e] := by
  rcases r with e | ⟨⟩
  · refine .inr ⟨e, rfl, ?_⟩
    unfold Loop.settle
    cases l.isFailing with
    | true => exact ⟨rfl, (List.append_nil _).symm⟩
    | false => exact ⟨rfl, rfl⟩
  · exact .inl ⟨rfl, rfl, rfl⟩

theorem Loop.events_prefix_settle (l : Loop) (board : Board) (out : Stream)
    (r : Except IoError Unit) : l.events <+: (l.settle board out r).events := by
  rcases l.settle_cases board out r with ⟨-, -, hevents⟩ | ⟨e, -, -, hevents⟩
  · exact ⟨[], by rw [hevents, List.append_nil]⟩
  · exact ⟨_, hevents.symm⟩

/-- The loop has not painted since, and it has reported at most one event that is no warning. -/
structure Loop.GoesOn (l : Loop) (es : List Log.Event) (l' : Loop) : Prop where
  isFailing_eq : l'.isFailing = l.isFailing
  events_eq : l'.events = l.events ++ es
  length_le : es.length ≤ 1
  level_ne : ∀ e ∈ es, e.level ≠ .warn

theorem Loop.GoesOn.silent {l l' : Loop} (hflag : l'.isFailing = l.isFailing)
    (hevents : l'.events = l.events) : l.GoesOn [] l' :=
  ⟨hflag, hevents.trans (List.append_nil _).symm, Nat.zero_le 1, fun _ he => by cases he⟩

theorem Loop.GoesOn.report {l l' : Loop} {e : Log.Event} (hflag : l'.isFailing = l.isFailing)
    (hevents : l'.events = l.events ++ [e]) (hlevel : e.level ≠ .warn) : l.GoesOn [e] l' :=
  ⟨hflag, hevents, Nat.le_refl 1, fun _ he => List.mem_singleton.mp he ▸ hlevel⟩

theorem System.isFailing_change {ι : Type} (s : System ι) (c : Change) :
    (s.change c).loop.isFailing = s.loop.isFailing := by
  rw [System.change]

theorem System.events_change {ι : Type} (s : System ι) (c : Change) :
    (s.change c).loop.events = s.loop.events := by
  rw [System.change]

theorem System.asked_change {ι : Type} (s : System ι) (c : Change) :
    (s.change c).asked = s.asked := by
  rw [System.change]

namespace System.Step

variable {ι : Type} [DecidableEq ι] {s t : System ι}

/-- A thread reports nothing. -/
theorem loop_of_thread (h : Step s t) (hphase : t.phase = s.phase) :
    t.loop.isFailing = s.loop.isFailing ∧ t.loop.events = s.loop.events := by
  cases h with
  | change i c _ _ => exact ⟨rfl, rfl⟩
  | ask i k _ => exact ⟨rfl, rfl⟩
  | cancel => exact ⟨rfl, rfl⟩
  | keepSize size isAsked hbefore _ => cases isAsked <;> cases hphase.trans hbefore
  | _ => simp_all [System.go]

/-- The loop paints, or it goes on without. -/
theorem loop_cases (h : Step s t) (hphase : t.phase ≠ s.phase) :
    (s.phase = .painting ∧ t = s.paint.go .checking) ∨
      (s.phase ≠ .painting ∧ ∃ es, s.loop.GoesOn es t.loop) := by
  cases h with
  | change i c _ _ => exact absurd rfl hphase
  | ask i k _ => exact absurd rfl hphase
  | cancel => exact absurd rfl hphase
  | paint h => exact .inl ⟨h, rfl⟩
  | interrupt chunk h _ => exact .inr ⟨by simp [h], _, .report rfl rfl (by decide)⟩
  | inputClosed h => exact .inr ⟨by simp [h], _, .report rfl rfl (by decide)⟩
  | takeSize size isAsked h _ =>
      exact .inr ⟨by simp [h], _, .report rfl rfl (by simp [Loop.resized])⟩
  | begin h => exact .inr ⟨by simp [h], [], .silent rfl rfl⟩
  | leave h _ => exact .inr ⟨by simp [h], [], .silent rfl rfl⟩
  | sleep h _ => exact .inr ⟨by simp [h], [], .silent rfl rfl⟩
  | take h _ => exact .inr ⟨by simp [h], [], .silent rfl rfl⟩
  | repaintKey chunk h _ _ => exact .inr ⟨by simp [h], [], .silent rfl rfl⟩
  | otherInput chunk h _ _ => exact .inr ⟨by simp [h], [], .silent rfl rfl⟩
  | timeout h => exact .inr ⟨by simp [h], [], .silent rfl rfl⟩
  | forget h =>
      exact .inr ⟨by simp [h], [], .silent (s.isFailing_change _) (s.events_change _)⟩
  | askForgotten k h => exact .inr ⟨by simp [h], [], .silent rfl rfl⟩
  | keepSize size isAsked h _ => exact .inr ⟨by simp [h], [], .silent rfl rfl⟩
  | refresh d h =>
      exact .inr ⟨by simp [h], [], .silent (s.isFailing_change _) (s.events_change _)⟩
  | announce k h => exact .inr ⟨by simp [h], [], .silent rfl rfl⟩

theorem events_prefix (h : Step s t) (hphase : t.phase ≠ s.phase) :
    s.loop.events <+: t.loop.events := by
  rcases h.loop_cases hphase with ⟨-, rfl⟩ | ⟨-, es, hgoes⟩
  · change s.loop.events <+: s.loop.paint.events
    rw [s.loop.paint_eq_settle]
    exact s.loop.events_prefix_settle _ _ _
  · exact ⟨es, hgoes.events_eq.symm⟩

theorem history_prefix (h : Step s t) : s.history <+: t.history := by
  cases h with
  | change i c _ _ => exact List.prefix_append _ _
  | forget _ => exact List.prefix_append _ _
  | takeSize size isAsked _ _ => exact List.prefix_append _ _
  | refresh d _ => exact List.prefix_append _ _
  | _ => exact List.prefix_rfl

theorem asked_subset (h : Step s t) : s.asked ⊆ t.asked := by
  cases h with
  | ask i k _ => exact List.subset_append_left _ _
  | askForgotten k _ => exact List.subset_append_left _ _
  | announce k _ => exact List.subset_append_left _ _
  | refresh d _ =>
      rw [System.go, s.asked_change]
      exact List.Subset.refl _
  | _ => exact List.Subset.refl _

end System.Step

end StatusBoard.Board
