import Mathlib.Data.List.Induction
import StatusBoard.Proofs.Board.Reporting
import StatusBoard.Proofs.Board.Requests

/-!
A console that is dead is reported once.

The report of a paint that fails comes to the board and asks for a repaint, which fails as well.
The flag of the loop keeps this from going on: it says at every moment how the last paint ended, so
a paint that fails is reported exactly if it is the first or the one before has succeeded.
-/

namespace StatusBoard.Board

/-! ## Warnings -/

/-- How the last paint ended, if there has been one. -/
def lastOutcome? (ts : List Turn) : Option (Except IoError Unit) :=
  (ts.filterMap Turn.outcome?).getLast?

theorem lastOutcome?_concat (ts : List Turn) (m : Turn) :
    lastOutcome? (ts ++ [m]) = m.outcome?.or (lastOutcome? ts) := by
  rw [lastOutcome?, List.filterMap_append, List.getLast?_append, lastOutcome?]
  cases h : m.outcome? <;> simp [h]

/-- Before a paint that is the first or comes after a successful one there is a success after every
failure. -/
theorem exists_success_after {ts : List Turn} {i : Nat} {m : Turn} {e : IoError}
    (hm : ts[i]? = some m) (herror : m.outcome? = some (.error e))
    (hlast : lastOutcome? ts = none ∨ lastOutcome? ts = some (.ok ())) :
    ∃ k n, i < k ∧ ts[k]? = some n ∧ n.outcome? = some (.ok ()) := by
  induction ts using List.reverseRecOn with
  | nil => cases hm
  | append_singleton ts n ih =>
      rw [lastOutcome?_concat] at hlast
      have hlength : i < (ts ++ [n]).length := (List.getElem?_eq_some_iff.mp hm).1
      rw [List.length_append, List.length_singleton] at hlength
      by_cases hat : i = ts.length
      · -- the failure would be the last outcome
        obtain rfl : n = m := by simpa [hat] using hm
        rw [herror] at hlast
        rcases hlast with hlast | hlast <;> cases hlast
      · have hbefore : i < ts.length := by omega
        rw [List.getElem?_append_left hbefore] at hm
        cases houtcome : n.outcome? with
        | none =>
            rw [houtcome, Option.none_or] at hlast
            obtain ⟨k, n', hk, hn', hok⟩ := ih hm hlast
            have hlength' : k < ts.length := (List.getElem?_eq_some_iff.mp hn').1
            exact ⟨k, n', hk, by rw [List.getElem?_append_left hlength', hn'], hok⟩
        | some r =>
            rw [houtcome, Option.some_or] at hlast
            have hok : r = .ok () := by simpa using hlast
            exact ⟨ts.length, n, hbefore, by simp, by rw [houtcome, hok]⟩

/-- A turn warns that a paint has failed. -/
def Turn.Warns (m : Turn) (e : Log.Event) : Prop :=
  e ∈ m.reported ∧ ∃ cause, e = Loop.paintFailed cause

/-- After the turns before, a turn warns of a paint exactly if it fails and is the first or comes
after a successful one. -/
structure Turn.IsApt (before : List Turn) (m : Turn) : Prop where
  length_le : m.reported.length ≤ 1
  warns_iff : ∀ e, m.Warns e ↔ ∃ cause, m.outcome? = some (.error cause) ∧
    e = Loop.paintFailed cause ∧
    (lastOutcome? before = none ∨ lastOutcome? before = some (.ok ()))

/-- Whether the last paint failed. -/
def HasFailed (ts : List Turn) : Prop := ∃ cause, lastOutcome? ts = some (.error cause)

theorem hasFailed_concat {ts : List Turn} {m : Turn} :
    HasFailed (ts ++ [m]) ↔ ∃ cause, m.outcome?.or (lastOutcome? ts) = some (.error cause) := by
  rw [HasFailed, lastOutcome?_concat]

theorem not_hasFailed_iff {ts : List Turn} :
    ¬ HasFailed ts ↔ lastOutcome? ts = none ∨ lastOutcome? ts = some (.ok ()) := by
  unfold HasFailed
  rcases lastOutcome? ts with _ | _ | _ <;> simp

namespace Turn.IsApt

variable {before : List Turn}

theorem of_quiet {m : Turn} (hlength : m.reported.length ≤ 1)
    (hlevel : ∀ e ∈ m.reported, e.level ≠ .warn)
    (hnot : ∀ cause, m.outcome? ≠ some (.error cause)) : m.IsApt before := by
  refine ⟨hlength, fun e => ⟨?_, ?_⟩⟩
  · rintro ⟨he, cause, rfl⟩
    exact absurd rfl (hlevel _ he)
  · rintro ⟨cause, hcause, -⟩
    exact absurd hcause (hnot cause)

theorem of_lasting (h : HasFailed before) (cause : IoError) :
    IsApt before ⟨some (.error cause), []⟩ := by
  refine ⟨Nat.zero_le 1, fun e => ⟨?_, ?_⟩⟩
  · rintro ⟨he, -⟩
    cases he
  · rintro ⟨-, -, -, hfresh⟩
    exact absurd h (not_hasFailed_iff.mpr hfresh)

theorem of_first (h : ¬ HasFailed before) (cause : IoError) :
    IsApt before ⟨some (.error cause), [Loop.paintFailed cause]⟩ := by
  refine ⟨Nat.le_refl 1, fun e => ⟨?_, ?_⟩⟩
  · rintro ⟨he, -⟩
    exact ⟨cause, rfl, List.mem_singleton.mp he, not_hasFailed_iff.mp h⟩
  · rintro ⟨cause', hcause, rfl, -⟩
    cases hcause
    exact ⟨List.mem_singleton.mpr rfl, cause, rfl⟩

end Turn.IsApt

/-- A turn warns when it should, and afterwards the flag of the loop says how the last paint has
ended. -/
structure Loop.Keeps (before : List Turn) (l' : Loop) (m : Turn) : Prop where
  isApt : m.IsApt before
  isFailing_iff : l'.isFailing = true ↔ HasFailed (before ++ [m])

namespace Loop

variable {l l' : Loop} {before : List Turn}

theorem keeps_settle (hflag : l.isFailing = true ↔ HasFailed before) (board : Board) (out : Stream)
    (r : Except IoError Unit) :
    Keeps before (l.settle board out r) ⟨some r, l.reported (l.settle board out r)⟩ := by
  rcases l.settle_cases board out r with ⟨rfl, hsucceeds, hevents⟩ | ⟨e, rfl, hfails, hevents⟩
  · rw [reported, hevents, List.drop_length]
    refine ⟨.of_quiet (Nat.zero_le 1) (fun _ he => by cases he) (by simp), ?_⟩
    rw [hasFailed_concat, hsucceeds]
    simp
  · rw [reported, hevents, List.drop_left]
    refine ⟨?_, ?_⟩
    · -- the flag decides about the report, and it is up exactly if the last paint has failed
      cases hbefore : l.isFailing with
      | true => exact .of_lasting (hflag.mp hbefore) e
      | false => exact .of_first (fun hfailed => by simp [hflag.mpr hfailed] at hbefore) e
    · rw [hasFailed_concat, hfails]
      simp

theorem GoesOn.keeps {es : List Log.Event} (h : l.GoesOn es l')
    (hflag : l.isFailing = true ↔ HasFailed before) : Keeps before l' ⟨none, l.reported l'⟩ := by
  rw [reported, h.events_eq, List.drop_left]
  refine ⟨.of_quiet h.length_le h.level_ne (by simp), ?_⟩
  rw [hasFailed_concat, h.isFailing_eq, hflag]
  exact Iff.rfl

end Loop

theorem System.keeps_turn {ι : Type} [DecidableEq ι] {s t : System ι} {before : List Turn}
    (hflag : s.loop.isFailing = true ↔ HasFailed before) (h : Step s t)
    (hphase : t.phase ≠ s.phase) :
    Loop.Keeps before t.loop ⟨s.outcome?, s.loop.reported t.loop⟩ := by
  rcases h.loop_cases hphase with ⟨hpainting, rfl⟩ | ⟨hother, es, hgoes⟩
  · change Loop.Keeps before s.loop.paint ⟨s.outcome?, s.loop.reported s.loop.paint⟩
    rw [outcome?, if_pos hpainting, s.loop.paint_eq_settle]
    exact Loop.keeps_settle hflag _ _ _
  · rw [outcome?, if_neg hother]
    exact hgoes.keeps hflag

theorem System.Covered.fail {ι : Type} {s : System ι} (h : Covered s) (out : Stream)
    (cause : IoError) : Covered ((s.fail out cause).go .checking) := by
  refine ⟨h.asked_lt, h.unasked_lt, fun _ hk => by simp [System.go] at hk, ?_⟩
  intro k hk
  exact .inl ⟨s.attempt, List.mem_append_right _ (List.mem_singleton.mpr rfl), h.asked_lt k hk⟩

namespace Feedback

variable {ι : Type} {s t : Feedback ι}

/-- The flag of the loop says how the last paint ended, and every turn has warned when it should. -/
structure Apt (s : Feedback ι) : Prop where
  isFailing_iff : s.system.loop.isFailing = true ↔ HasFailed s.turns
  turns : ∀ (i : Nat) (m : Turn), s.turns[i]? = some m → m.IsApt (s.turns.take i)

namespace Apt

theorem start (b : Board) (out : Stream) (sink : Log.Sink) :
    Apt (start b out sink : Feedback ι) := by
  refine ⟨?_, fun i m hm => by cases hm⟩
  constructor
  · intro hflag
    cases hflag
  · rintro ⟨cause, hcause⟩
    cases hcause

theorem of_eq (h : Apt s) (hflag : t.system.loop.isFailing = s.system.loop.isFailing)
    (hturns : t.turns = s.turns) : Apt t := by
  refine ⟨?_, ?_⟩
  · rw [hflag, hturns]
    exact h.isFailing_iff
  · rw [hturns]
    exact h.turns

theorem advance (h : Apt s) {outcome? : Option (Except IoError Unit)} {t : System ι}
    (hkeeps : Loop.Keeps s.turns t.loop ⟨outcome?, s.system.loop.reported t.loop⟩) :
    Apt (s.advance outcome? t) := by
  refine ⟨hkeeps.isFailing_iff, ?_⟩
  rw [Feedback.advance]
  generalize (⟨outcome?, s.system.loop.reported t.loop⟩ : Turn) = last at hkeeps
  intro i m hm
  have hlength := (List.getElem?_eq_some_iff.mp hm).1
  rw [List.length_append, List.length_singleton] at hlength
  rw [List.take_append_of_le_length (by omega)]
  by_cases hlast : i = s.turns.length
  · obtain rfl : last = m := by simpa [hlast] using hm
    rw [hlast, List.take_length]
    exact hkeeps.isApt
  · rw [List.getElem?_append_left (by omega)] at hm
    exact h.turns i m hm

theorem step [DecidableEq ι] {f : Log.Filter} (h : Apt s) (hstep : Step f s t) : Apt t := by
  cases hstep with
  | thread hs hphase => exact h.of_eq (hs.loop_of_thread hphase).1 rfl
  | turn _ _ hs hphase => exact h.advance (System.keeps_turn h.isFailing_iff hs hphase)
  | fail out cause _ _ _ =>
      exact h.advance
        (Loop.keeps_settle h.isFailing_iff s.system.loop.board out (.error cause))
  | skip e rest _ _ _ => exact h.of_eq rfl rfl
  | log e r rest _ _ _ _ =>
      rw [log]
      exact h.of_eq (s.system.isFailing_change _) rfl
  | ask e k _ =>
      rw [ask]
      exact h.of_eq rfl rfl
  | copy e _ =>
      rw [copy]
      exact h.of_eq rfl rfl
  | disturb out mirror => exact h.of_eq rfl rfl

end Apt

/-- What has been reported is on the board, waits to be written or is not let through, and a repaint
is asked for what is on the board. -/
structure Recorded (f : Log.Filter) (s : Feedback ι) : Prop where
  events : s.system.loop.events = s.turns.flatMap Turn.reported
  passed : s.system.loop.events.filter f.accepts =
    s.logged.map Prod.fst ++ s.waiting.filter f.accepts
  record : ∀ e k, (e, k) ∈ s.logged → s.system.history[k]? = some (.record e.record)
  asked : ∀ e k, (e, k) ∈ s.logged → s.writing = .asking e k ∨ k ∈ s.system.asked
  asking : ∀ e k, s.writing = .asking e k → (e, k) ∈ s.logged

namespace Recorded

variable {f : Log.Filter}

theorem start (b : Board) (out : Stream) (sink : Log.Sink) :
    Recorded f (start b out sink : Feedback ι) :=
  ⟨rfl, rfl, fun _ _ h => (by cases h), fun _ _ h => (by cases h), fun _ _ h => (by cases h)⟩

/-- No change is taken back. -/
theorem record_of_prefix (h : Recorded f s) {history : List Change}
    (hgrown : s.system.history <+: history) {e : Log.Event} {k : Nat} (hk : (e, k) ∈ s.logged) :
    history[k]? = some (.record e.record) := by
  obtain ⟨rest, rfl⟩ := hgrown
  have hrecord := h.record e k hk
  rw [List.getElem?_append_left (List.getElem?_eq_some_iff.mp hrecord).1, hrecord]

theorem follow [DecidableEq ι] (h : Recorded f s) {t : System ι} (hstep : System.Step s.system t)
    (hphase : t.phase = s.system.phase) : Recorded f (s.follow t) := by
  have hevents := (hstep.loop_of_thread hphase).2
  refine ⟨hevents.trans h.events, ?_, fun e k hk => ?_, fun e k hk => ?_, h.asking⟩
  · change t.loop.events.filter f.accepts = _
    rw [hevents]
    exact h.passed
  · exact h.record_of_prefix hstep.history_prefix hk
  · exact (h.asked e k hk).imp_right fun hasked => hstep.asked_subset hasked

/-- What the loop reports waits to be written. -/
theorem advance (h : Recorded f s) (hwaiting : s.waiting = [])
    (outcome? : Option (Except IoError Unit)) {t : System ι}
    (hevents : s.system.loop.events <+: t.loop.events)
    (hhistory : s.system.history <+: t.history) (hasked : s.system.asked ⊆ t.asked) :
    Recorded f (s.advance outcome? t) := by
  have hsplit : t.loop.events = s.system.loop.events ++ s.system.loop.reported t.loop := by
    obtain ⟨es, hes⟩ := hevents
    rw [Loop.reported, ← hes, List.drop_left]
  refine ⟨?_, ?_, fun e k hk => ?_, fun e k hk => ?_, h.asking⟩
  · rw [Feedback.advance, List.flatMap_append, List.flatMap_singleton, ← h.events, hsplit]
  · rw [Feedback.advance, hsplit, List.filter_append, h.passed, hwaiting, List.filter_nil,
      List.append_nil]
  · exact h.record_of_prefix hhistory hk
  · exact (h.asked e k hk).imp_right fun hbefore => hasked hbefore

/-- An event is skipped only if it is not let through. -/
theorem skip (h : Recorded f s) {e : Log.Event} {rest : List Log.Event}
    (hwaiting : s.waiting = e :: rest) (haccepts : f.accepts e = false) :
    Recorded f (s.skip rest) := by
  refine ⟨h.events, ?_, h.record, h.asked, h.asking⟩
  have hpassed := h.passed
  rw [hwaiting, List.filter_cons_of_neg (by simp [haccepts])] at hpassed
  exact hpassed

theorem log (h : Recorded f s) (hidle : s.writing = .idle) {e : Log.Event} {r : Log.Record}
    {rest : List Log.Event} (hwaiting : s.waiting = e :: rest) (haccepts : f.accepts e = true)
    (hr : e.record = r) : Recorded f (s.log e r rest) := by
  have hlast : ∀ e' k, (e', k) ∈ s.logged ++ [(e, s.system.history.length)] →
      (e', k) ∈ s.logged ∨ e' = e ∧ k = s.system.history.length := by
    intro e' k hk
    rcases List.mem_append.mp hk with hk | hk
    · exact .inl hk
    · exact .inr (Prod.mk.inj (List.mem_singleton.mp hk))
  rw [Feedback.log]
  refine ⟨(s.system.events_change _).trans h.events, ?_, fun e' k hk => ?_, fun e' k hk => ?_,
    fun e' k hk => ?_⟩
  · have hpassed := h.passed
    rw [hwaiting, List.filter_cons_of_pos haccepts] at hpassed
    rw [s.system.events_change, hpassed, List.map_append, List.append_assoc]
    rfl
  · rcases hlast e' k hk with hk | ⟨rfl, rfl⟩
    · exact h.record_of_prefix (List.prefix_append _ _) hk
    · rw [System.change, List.getElem?_concat_length, hr]
  · rcases hlast e' k hk with hk | ⟨rfl, rfl⟩
    · rcases h.asked e' k hk with hasking | hasked
      · cases hidle.symm.trans hasking
      · exact .inr ((s.system.asked_change _).symm ▸ hasked)
    · exact .inl rfl
  · cases hk
    exact List.mem_append_right _ (List.mem_singleton.mpr rfl)

theorem ask (h : Recorded f s) {e : Log.Event} {k : Nat} (hasking : s.writing = .asking e k) :
    Recorded f (s.ask e k) := by
  refine ⟨h.events, h.passed, h.record, fun e' k' hk => ?_, fun e' k' hk => by cases hk⟩
  refine .inr (List.mem_append.mpr ?_)
  rcases h.asked e' k' hk with hbefore | hasked
  · cases hasking.symm.trans hbefore
    exact .inr (List.mem_singleton.mpr rfl)
  · exact .inl hasked

theorem copy (h : Recorded f s) {e : Log.Event} (hcopying : s.writing = .copying e) :
    Recorded f (s.copy e) := by
  refine ⟨h.events, h.passed, h.record, fun e' k hk => ?_, fun e' k hk => by cases hk⟩
  rcases h.asked e' k hk with hasking | hasked
  · cases hcopying.symm.trans hasking
  · exact .inr hasked

theorem step [DecidableEq ι] (h : Recorded f s) (hstep : Step f s t) : Recorded f t := by
  cases hstep with
  | thread hs hphase => exact h.follow hs hphase
  | turn hwaiting _ hs hphase =>
      exact h.advance hwaiting _ (hs.events_prefix hphase) hs.history_prefix hs.asked_subset
  | fail out cause hwaiting _ _ =>
      exact h.advance hwaiting _ (s.system.loop.events_prefix_settle _ _ _) List.prefix_rfl
        (List.Subset.refl _)
  | skip e rest _ hwaiting haccepts => exact h.skip hwaiting haccepts
  | log e r rest hidle hwaiting haccepts hr =>
      exact h.log hidle hwaiting haccepts ((record_line s.sink e).symm.trans hr)
  | ask e k hasking => exact h.ask hasking
  | copy e hcopying => exact h.copy hcopying
  | disturb out mirror => exact ⟨h.events, h.passed, h.record, h.asked, h.asking⟩

end Recorded

/-- What is on the board will be seen. -/
theorem Recorded.covered [DecidableEq ι] {f : Log.Filter} (hrecorded : Recorded f s)
    (h : System.Covered s.system) (hstep : Step f s t) : System.Covered t.system := by
  cases hstep with
  | thread hs _ => exact h.step hs
  | turn _ _ hs _ => exact h.step hs
  | fail out cause _ _ _ => exact h.fail out cause
  | skip e rest _ _ _ => exact h
  | log e r rest _ _ _ _ => exact h.change (.record r)
  | ask e k hasking =>
      have hrecord := hrecorded.record e k (hrecorded.asking e k hasking)
      exact h.ask (List.getElem?_eq_some_iff.mp hrecord).1
  | copy e _ => exact h
  | disturb out mirror => exact h.mapLoop rfl

section

variable [DecidableEq ι] {f : Log.Filter} {b : Board} {out : Stream} {sink : Log.Sink}

theorem Reachable.apt (h : Reachable f b out sink s) : Apt s := by
  induction h with
  | refl => exact .start b out sink
  | tail _ hstep ih => exact ih.step hstep

theorem Reachable.recorded (h : Reachable f b out sink s) : Recorded f s := by
  induction h with
  | refl => exact .start b out sink
  | tail _ hstep ih => exact ih.step hstep

theorem Reachable.covered (h : Reachable f b out sink s) : System.Covered s.system := by
  induction h with
  | refl => exact .initial b out
  | tail hs hstep ih => exact Recorded.covered (Reachable.recorded hs) ih hstep

end

/-- A dead console does not feed the loop. -/
structure WarnsOnce (f : Log.Filter) (s : Feedback ι) : Prop where
  /-- The loop warns of the paints that fail and are the first or come after a successful one. -/
  apt : ∀ (i : Nat) (m : Turn), s.turns[i]? = some m → m.IsApt (s.turns.take i)
  /-- Between two warnings a paint succeeds. -/
  between : ∀ (i j : Nat) (m n : Turn) (e e' : Log.Event), i < j →
    s.turns[i]? = some m → s.turns[j]? = some n → m.Warns e → n.Warns e' →
    ∃ (k : Nat) (p : Turn), i < k ∧ k < j ∧ s.turns[k]? = some p ∧ p.outcome? = some (.ok ())
  /-- What is let through of the reports is logged or waits for it, in order. -/
  passed : (s.turns.flatMap Turn.reported).filter f.accepts =
    s.logged.map Prod.fst ++ s.waiting.filter f.accepts
  /-- What is logged is on the board, and a repaint is asked for that will show it. -/
  logged : ∀ e k, (e, k) ∈ s.logged → s.system.history[k]? = some (.record e.record) ∧
    (s.writing = .asking e k ∨ k ∈ s.system.asked ∧ s.system.Covers k)

/-- Whatever the threads do and however the paints end, the loop warns once of a console that is
dead, although every warning asks for one more repaint. -/
theorem warns_once [DecidableEq ι] {f : Log.Filter} {b : Board} {out : Stream} {sink : Log.Sink}
    (h : Reachable f b out sink s) : WarnsOnce f s := by
  have hrecorded := h.recorded
  refine ⟨h.apt.turns, ?_, ?_, fun e k hk => ⟨hrecorded.record e k hk, ?_⟩⟩
  · intro i j m n e e' hij hm hn hwarns hwarns'
    obtain ⟨cause, herror, -⟩ := ((h.apt.turns i m hm).warns_iff e).mp hwarns
    obtain ⟨-, -, -, hfresh⟩ := ((h.apt.turns j n hn).warns_iff e').mp hwarns'
    have hbefore : (s.turns.take j)[i]? = some m := by rw [List.getElem?_take_of_lt hij, hm]
    obtain ⟨k, p, hik, hp, hok⟩ := exists_success_after hbefore herror hfresh
    have hkj : k < j := by
      have hlength := (List.getElem?_eq_some_iff.mp hp).1
      rw [List.length_take] at hlength
      omega
    rw [List.getElem?_take_of_lt hkj] at hp
    exact ⟨k, p, hik, hkj, hp, hok⟩
  · rw [← hrecorded.events]
    exact hrecorded.passed
  · exact (hrecorded.asked e k hk).imp_right fun hasked => ⟨hasked, h.covered.covers k hasked⟩

/-! ## A console that dies twice -/

deriving instance DecidableEq for Turn

theorem waiting_turn {s : Feedback ι} {t : System ι} (h : t.loop.events = s.system.loop.events) :
    (s.turn t).waiting = [] := by
  rw [turn, advance, Loop.reported, h, List.drop_length]

section

variable [DecidableEq ι] {f : Log.Filter} {b : Board} {out : Stream} {sink : Log.Sink}

/-- The loop takes a request and paints. -/
def repaint (s : Feedback ι) : Feedback ι :=
  let asleep := s.system.go .asleep
  let measuring := asleep.takeRequest.go (.measuring true)
  let painting := measuring.go .painting
  (((s.turn asleep).turn measuring).turn painting).turn (painting.paint.go .checking)

theorem Reachable.repaint (h : Reachable f b out sink s) (hphase : s.system.phase = .checking)
    (hended : s.system.loop.isEnded = false) (hrequested : s.system.loop.board.isRequested = true)
    (hwaiting : s.waiting = []) (hidle : s.writing = .idle) :
    Reachable f b out sink s.repaint := by
  have hsize : ∀ b : Board, (b.syncSize b.screen.size).2 = false := by
    intro b
    rw [syncSize, Terminal.Screen.resize, if_pos rfl]
  have hasleep := h.tail (.turn hwaiting hidle (.sleep hphase hended) (by simp [hphase, System.go]))
  have hmeasuring := hasleep.tail (.turn (waiting_turn rfl) hidle (.take rfl hrequested)
    (by simp [turn, advance, System.go]))
  have hpainting := hmeasuring.tail (.turn (waiting_turn rfl) hidle
    (.keepSize s.system.loop.board.screen.size true rfl (hsize _))
    (by simp [turn, advance, System.go]))
  exact hpainting.tail (.turn (waiting_turn rfl) hidle (.paint rfl)
    (by simp [turn, advance, System.go]))

theorem Reachable.disturb (h : Reachable f b out sink s) (out' : Stream)
    (mirror : Option Stream) : Reachable f b out sink (s.disturb out' mirror) :=
  h.tail (.disturb out' mirror)

/-- A thread forgets what is shown and asks for a repaint. -/
def demand (s : Feedback ι) (i : ι) : Feedback ι :=
  let changed := (s.system.change .forget).note i (some s.system.history.length)
  (s.follow changed).follow ((changed.ask s.system.history.length).note i none)

theorem Reachable.demand (h : Reachable f b out sink s) (i : ι) (hi : s.system.unasked i = none) :
    Reachable f b out sink (s.demand i) :=
  (h.tail (.thread (.change i .forget hi trivial) rfl)).tail
    (.thread (.ask i s.system.history.length (if_pos rfl)) rfl)

/-- The loop writes what it has reported last. -/
def write (s : Feedback ι) (e : Log.Event) : Feedback ι :=
  ((s.log e e.record []).ask e s.system.history.length).copy e

theorem Reachable.write (h : Reachable f b out sink s) {e : Log.Event} (hidle : s.writing = .idle)
    (hwaiting : s.waiting = [e]) (haccepts : f.accepts e = true) :
    Reachable f b out sink (s.write e) :=
  ((h.tail (.log e e.record [] hidle hwaiting haccepts (record_line s.sink e))).tail
    (.ask e s.system.history.length rfl)).tail (.copy e rfl)

end

def deadStream : Stream := { room := some 0, taken := [] }

/-- The loop before it sleeps for the first time. -/
def begun : Feedback Unit :=
  (start System.emptyBoard deadStream ⟨.standard, none⟩).turn
    ((System.initial System.emptyBoard deadStream).request.go .checking)

/-- The console takes nothing, and the repaint that the warning asks for fails too. -/
def failedTwice : Feedback Unit := (begun.repaint.write (Loop.paintFailed Stream.gone)).repaint

/-- The console takes everything once and then nothing again. -/
def failedAgain : Feedback Unit :=
  let succeeded := ((failedTwice.disturb .endless none).demand ()).repaint
  ((succeeded.disturb deadStream none).demand ()).repaint

theorem reachable_failedTwice :
    Reachable .info System.emptyBoard deadStream ⟨.standard, none⟩ failedTwice := by
  have hbegun : Reachable .info System.emptyBoard deadStream ⟨.standard, none⟩ begun :=
    Relation.ReflTransGen.single
      (.turn rfl rfl (.begin rfl) (by simp [start, System.go, System.initial]))
  have hwritten := (hbegun.repaint rfl rfl rfl rfl rfl).write (e := Loop.paintFailed Stream.gone)
    rfl (by decide +kernel) (by decide +kernel)
  exact hwritten.repaint rfl (by decide +kernel) rfl rfl rfl

theorem reachable_failedAgain :
    Reachable .info System.emptyBoard deadStream ⟨.standard, none⟩ failedAgain := by
  have hsucceeded := ((reachable_failedTwice.disturb .endless none).demand () rfl).repaint rfl
    (by decide +kernel) rfl (by decide +kernel) rfl
  exact ((hsucceeded.disturb deadStream none).demand () rfl).repaint rfl (by decide +kernel) rfl
    (by decide +kernel) rfl

/-- The first and the last of four paints fail and are warned of, the second fails and is not, and
between the two warnings the third succeeds. -/
theorem warns_once_failedAgain :
    Reachable .info System.emptyBoard deadStream ⟨.standard, none⟩ failedAgain ∧
      failedAgain.turns.filter (·.outcome?.isSome) =
        [⟨some (.error Stream.gone), [Loop.paintFailed Stream.gone]⟩,
          ⟨some (.error Stream.gone), []⟩, ⟨some (.ok ()), []⟩,
          ⟨some (.error Stream.gone), [Loop.paintFailed Stream.gone]⟩] ∧
      (∃ (k : Nat) (p : Turn), 4 < k ∧ k < 16 ∧ failedAgain.turns[k]? = some p ∧
        p.outcome? = some (.ok ())) ∧
      failedAgain.system.history[0]? =
        some (.record (Loop.paintFailed Stream.gone).record) := by
  have hreachable := reachable_failedAgain
  refine ⟨hreachable, by decide +kernel, ?_, ?_⟩
  · exact (warns_once hreachable).between 4 16
      ⟨some (.error Stream.gone), [Loop.paintFailed Stream.gone]⟩
      ⟨some (.error Stream.gone), [Loop.paintFailed Stream.gone]⟩ _ _ (by decide)
      (by decide +kernel) (by decide +kernel)
      ⟨List.mem_singleton.mpr rfl, Stream.gone, rfl⟩ ⟨List.mem_singleton.mpr rfl, Stream.gone, rfl⟩
  · exact ((warns_once hreachable).logged (Loop.paintFailed Stream.gone) 0 (by decide +kernel)).1

end Feedback

end StatusBoard.Board
