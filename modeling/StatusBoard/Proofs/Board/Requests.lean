import StatusBoard.Proofs.Board.Interleaving

/-!
No change is lost: each one that a repaint has been asked for is painted, or will be.

Three invariants carry this.  The board always holds what its history says (`Faithful`); a change
that has been asked for is covered by an attempt to paint, by the request or by the loop
(`Covered`); and from a change that forgets what is shown to the next attempt to paint nothing is
remembered (`Forgetful`).
-/

namespace StatusBoard.Board

/-! ## What a board holds -/

/-- Boards that look the same, whatever their consoles show. -/
structure Alike (b b' : Board) : Prop where
  frame : b.frame = b'.frame
  pages : b.pages = b'.pages
  log : b.log = b'.log
  size : b.screen.size = b'.screen.size

namespace Alike

theorem refl (b : Board) : Alike b b := ⟨rfl, rfl, rfl, rfl⟩

variable {b b' : Board}

theorem picture (h : Alike b b') : b.picture = b'.picture := by
  rw [Board.picture, Board.picture, h.frame, h.pages, h.log, h.size]

theorem size_syncSize (b : Board) (size : Terminal.Size) :
    (b.syncSize size).1.screen.size = size ∧ (b.syncSize size).1.frame = b.frame ∧
      (b.syncSize size).1.pages = b.pages ∧ (b.syncSize size).1.log = b.log := by
  rcases b.syncSize_cases size with ⟨rfl, h⟩ | ⟨-, h⟩
  · rw [h]
    exact ⟨rfl, rfl, rfl, rfl⟩
  · rw [h]
    exact ⟨rfl, rfl, rfl, rfl⟩

/-- Boards that look the same look the same after a change. -/
theorem apply (h : Alike b b') (c : Change) : Alike (c.apply b) (c.apply b') := by
  obtain ⟨hframe, hpages, hlog, hsize⟩ := h
  cases c with
  | facts d =>
      rw [Change.apply, Change.apply, setFacts, setFacts, hframe, hsize]
      exact ⟨rfl, hpages, hlog, hsize⟩
  | record r =>
      rw [Change.apply, Change.apply, addRecord, addRecord, hlog]
      exact ⟨hframe, hpages, rfl, hsize⟩
  | modal m =>
      refine ⟨hframe, ?_, hlog, hsize⟩
      rw [Change.apply, Change.apply, setModal, setModal, hpages]
  | noModal =>
      refine ⟨hframe, ?_, hlog, hsize⟩
      rw [Change.apply, Change.apply, dropModal, dropModal, hpages]
  | forget => exact ⟨hframe, hpages, hlog, hsize⟩
  | resize size =>
      obtain ⟨h1, h2, h3, h4⟩ := size_syncSize b size
      obtain ⟨h1', h2', h3', h4'⟩ := size_syncSize b' size
      refine ⟨?_, ?_, ?_, ?_⟩
      · exact h2.trans (hframe.trans h2'.symm)
      · exact h3.trans (hpages.trans h3'.symm)
      · exact h4.trans (hlog.trans h4'.symm)
      · exact h1.trans h1'.symm

theorem paint (h : Alike b b') (out : Stream) : Alike (b.paint out).1 b' := by
  obtain ⟨hframe, hpages, hlog, hsize⟩ := h
  refine ⟨hframe, hpages, hlog, ?_⟩
  unfold Board.paint Terminal.Screen.draw
  cases out.send (Terminal.Command.encode (b.screen.drawCommands b.picture)) with
  | mk out result =>
      cases result with
      | ok _ => exact hsize
      | error e => exact hsize

end Alike

namespace System

variable {ι : Type}

theorem board_paint (l : Loop) : l.paint.board = (l.board.paint l.out).1 := by
  unfold Loop.paint
  split
  · rename_i h
    rw [h]
  · rename_i h
    rw [h]
    split <;> rfl

/-- The board holds what its history says, and each attempt to paint has composed what the history
said by then. -/
structure Faithful (b : Board) (s : System ι) : Prop where
  alike : Alike s.loop.board (replay b s.history)
  attempts : ∀ p ∈ s.attempts, p.count ≤ s.history.length ∧
    p.picture = (replay b (s.history.take p.count)).picture

namespace Faithful

variable {b : Board} {s t : System ι}

theorem initial (b : Board) (out : Stream) : Faithful b (System.initial b out : System ι) :=
  ⟨.refl b, fun p hp => by cases hp⟩

theorem of_alike (h : Faithful b s) (hboard : Alike t.loop.board (replay b s.history))
    (hhistory : t.history = s.history) (hattempts : t.attempts = s.attempts) : Faithful b t :=
  ⟨hhistory ▸ hboard, hhistory ▸ hattempts ▸ h.attempts⟩

theorem go (h : Faithful b s) (p : Phase) : Faithful b (s.go p) := h.of_alike h.alike rfl rfl

theorem change (h : Faithful b s) (c : Change) : Faithful b (s.change c) := by
  refine ⟨?_, ?_⟩
  · have hreplay : replay b (s.history ++ [c]) = c.apply (replay b s.history) := by
      rw [replay, List.foldl_append]
      rfl
    exact hreplay ▸ h.alike.apply c
  · intro p hp
    obtain ⟨hcount, hpicture⟩ := h.attempts p hp
    refine ⟨?_, ?_⟩
    · change p.count ≤ (s.history ++ [c]).length
      rw [List.length_append]
      omega
    · change p.picture = (replay b ((s.history ++ [c]).take p.count)).picture
      rw [List.take_append_of_le_length hcount, hpicture]

theorem paint (h : Faithful b s) : Faithful b s.paint := by
  refine ⟨?_, ?_⟩
  · change Alike s.loop.paint.board (replay b s.history)
    rw [board_paint]
    exact h.alike.paint s.loop.out
  · intro p hp
    rcases List.mem_append.mp hp with hp | hp
    · exact h.attempts p hp
    · obtain rfl := List.mem_singleton.mp hp
      refine ⟨Nat.le_refl _, ?_⟩
      change s.loop.board.picture = (replay b (s.history.take s.history.length)).picture
      rw [List.take_length, h.alike.picture]

theorem step [DecidableEq ι] (h : Faithful b s) (hstep : Step s t) : Faithful b t := by
  have hboard := h.alike
  have hasked : Alike s.loop.board.request (replay b s.history) :=
    ⟨hboard.frame, hboard.pages, hboard.log, hboard.size⟩
  cases hstep with
  | change i c _ _ => exact (h.change c).of_alike (h.change c).alike rfl rfl
  | ask i k _ => exact h.of_alike hasked rfl rfl
  | begin _ => exact h.of_alike hasked rfl rfl
  | take _ _ =>
      exact h.of_alike ⟨hboard.frame, hboard.pages, hboard.log, hboard.size⟩ rfl rfl
  | forget _ => exact (h.change .forget).go _
  | askForgotten k _ => exact h.of_alike hasked rfl rfl
  | takeSize size isAsked _ _ =>
      exact (h.change (.resize size)).of_alike (h.change (.resize size)).alike rfl rfl
  | refresh d _ => exact (h.change (.facts d)).go _
  | announce k _ => exact h.of_alike hasked rfl rfl
  | paint _ => exact h.paint.go _
  | _ => exact h.of_alike hboard rfl rfl

end Faithful

/-! ## Requests -/

/-- A change will be seen: an attempt to paint includes it, a request is waiting, the loop is
about to paint, or it has ended. -/
def Covers (s : System ι) (k : Nat) : Prop :=
  (∃ p ∈ s.attempts, k < p.count) ∨ s.loop.board.isRequested = true ∨ s.phase.OwesPaint ∨
    s.phase = .ended

theorem phase_change (s : System ι) (c : Change) : (s.change c).phase = s.phase := rfl

theorem isRequested_apply (b : Board) (c : Change) : (c.apply b).isRequested = b.isRequested := by
  cases c with
  | facts d => rw [Change.apply, setFacts]
  | record r => rw [Change.apply, addRecord]
  | _ => rfl

/-- The changes that are spoken of have been made, and those asked for are covered. -/
structure Covered (s : System ι) : Prop where
  asked_lt : ∀ k ∈ s.asked, k < s.history.length
  unasked_lt : ∀ i k, s.unasked i = some k → k < s.history.length
  phase_lt : ∀ k, s.phase = .asking k ∨ s.phase = .announcing k → k < s.history.length
  covers : ∀ k ∈ s.asked, s.Covers k

namespace Covered

variable {s t : System ι}

theorem initial (b : Board) (out : Stream) : Covered (System.initial b out : System ι) := by
  refine ⟨?_, ?_, ?_, ?_⟩
  · intro k hk
    cases hk
  · intro i k hk
    cases hk
  · rintro k (hk | hk)
    · cases hk
    · cases hk
  · intro k hk
    cases hk

/-- Where the loop goes does not matter as long as it does not go away from a paint that it owes.
-/
theorem go (h : Covered s) {p q : Phase} (hp : s.phase = p)
    (hphase : ∀ k, q = .asking k ∨ q = .announcing k → k < s.history.length)
    (howes : p.OwesPaint → q.OwesPaint) (hended : p ≠ .ended) : Covered (s.go q) := by
  refine ⟨h.asked_lt, h.unasked_lt, hphase, ?_⟩
  intro k hk
  rcases h.covers k hk with hpaint | hrequest | hphase | hgone
  · exact .inl hpaint
  · exact .inr (.inl hrequest)
  · exact .inr (.inr (.inl (howes (hp ▸ hphase))))
  · exact absurd (hp.symm.trans hgone) hended

/-- What the loop is told and reports says nothing about changes. -/
theorem mapLoop (h : Covered s) {l : Loop} (hl : l.board = s.loop.board) :
    Covered { s with loop := l } := by
  refine ⟨h.asked_lt, h.unasked_lt, h.phase_lt, ?_⟩
  intro k hk
  rcases h.covers k hk with hpaint | hrequest | hphase
  · exact .inl hpaint
  · refine .inr (.inl ?_)
    change l.board.isRequested = true
    rw [hl, hrequest]
  · exact .inr (.inr hphase)

theorem change (h : Covered s) (c : Change) : Covered (s.change c) := by
  have hgrow : s.history.length ≤ (s.change c).history.length := by
    change s.history.length ≤ (s.history ++ [c]).length
    rw [List.length_append]
    omega
  refine ⟨fun k hk => ?_, fun i k hk => ?_, fun k hk => ?_, fun k hk => ?_⟩
  · exact Nat.lt_of_lt_of_le (h.asked_lt k hk) hgrow
  · exact Nat.lt_of_lt_of_le (h.unasked_lt i k hk) hgrow
  · exact Nat.lt_of_lt_of_le (h.phase_lt k hk) hgrow
  · rcases h.covers k hk with hpaint | hrequest | hphase
    · exact .inl hpaint
    · exact .inr (.inl ((isRequested_apply s.loop.board c).trans hrequest))
    · exact .inr (.inr hphase)

theorem request (h : Covered s) : Covered s.request :=
  ⟨h.asked_lt, h.unasked_lt, h.phase_lt, fun _ _ => .inr (.inl rfl)⟩

theorem ask (h : Covered s) {k : Nat} (hk : k < s.history.length) : Covered (s.ask k) := by
  refine ⟨?_, h.unasked_lt, h.phase_lt, fun _ _ => .inr (.inl rfl)⟩
  intro j hj
  rcases List.mem_append.mp hj with hj | hj
  · exact h.asked_lt j hj
  · rw [List.mem_singleton.mp hj]
    exact hk

theorem note [DecidableEq ι] (h : Covered s) (i : ι) {k : Option Nat}
    (hk : ∀ j, k = some j → j < s.history.length) : Covered (s.note i k) := by
  refine ⟨h.asked_lt, ?_, h.phase_lt, h.covers⟩
  intro i' j hj
  change (if i' = i then k else s.unasked i') = some j at hj
  split at hj
  · exact hk j hj
  · exact h.unasked_lt i' j hj

theorem take (h : Covered s) : Covered (s.takeRequest.go (.measuring true)) :=
  ⟨h.asked_lt, h.unasked_lt, fun _ hk => by simp [System.go] at hk,
    fun _ _ => .inr (.inr (.inl rfl))⟩

theorem leave (h : Covered s) : Covered (s.go .ended) :=
  ⟨h.asked_lt, h.unasked_lt, fun _ hk => by simp [System.go] at hk,
    fun _ _ => .inr (.inr (.inr rfl))⟩

/-- After an attempt to paint everything that has been asked for is included in one. -/
theorem paint (h : Covered s) : Covered (s.paint.go .checking) := by
  refine ⟨h.asked_lt, h.unasked_lt, fun _ hk => by simp [System.go] at hk, ?_⟩
  intro k hk
  exact .inl ⟨s.attempt, List.mem_append_right _ (List.mem_singleton.mpr rfl), h.asked_lt k hk⟩

theorem step [DecidableEq ι] (h : Covered s) (hstep : Step s t) : Covered t := by
  have hfresh : ∀ c, s.history.length < (s.change c).history.length := by
    intro c
    change s.history.length < (s.history ++ [c]).length
    simp
  cases hstep with
  | change i c _ _ =>
      refine (h.change c).note i ?_
      rintro _ ⟨⟩
      exact hfresh c
  | ask i k hk => exact (h.ask (h.unasked_lt i k hk)).note i fun _ hj => by cases hj
  | cancel => exact h.mapLoop rfl
  | begin hphase => exact h.request.go hphase (by simp) False.elim (by simp)
  | leave _ _ => exact h.leave
  | sleep hphase _ => exact h.go hphase (by simp) False.elim (by simp)
  | take _ _ => exact h.take
  | interrupt chunk _ _ => exact (h.mapLoop (l := s.loop.report Loop.interrupted |>.stop) rfl).leave
  | repaintKey chunk hphase _ _ => exact h.go hphase (by simp) False.elim (by simp)
  | otherInput chunk hphase _ _ => exact h.go hphase (by simp) False.elim (by simp)
  | inputClosed hphase =>
      have hreport := h.mapLoop (l := s.loop.report Loop.closed) rfl
      exact hreport.go hphase (by simp) False.elim (by simp)
  | timeout hphase => exact h.go hphase (by simp) False.elim (by simp)
  | forget hphase =>
      refine (h.change .forget).go hphase ?_ False.elim (by simp)
      rintro k (hk | hk)
      · cases hk
        exact hfresh .forget
      · cases hk
  | askForgotten k hphase =>
      exact (h.ask (h.phase_lt k (.inl hphase))).go hphase (by simp) False.elim (by simp)
  | keepSize size isAsked hphase _ =>
      cases isAsked with
      | true => exact h.go hphase (by simp) (fun _ => trivial) (by simp)
      | false => exact h.go hphase (by simp) (fun hasked => by cases hasked) (by simp)
  | takeSize size isAsked hphase _ =>
      have hchange := (h.change (.resize size)).mapLoop
        (l := (s.change (.resize size)).loop.report (Loop.resized size)) rfl
      exact hchange.go hphase (by simp) (fun _ => trivial) (by simp)
  | refresh d hphase =>
      have hphase := (phase_change s (.facts d)).trans hphase
      refine (h.change (.facts d)).go hphase ?_ (fun _ => trivial) (by simp)
      rintro k (hk | hk)
      · cases hk
      · cases hk
        exact hfresh (.facts d)
  | announce k hphase =>
      exact (h.ask (h.phase_lt k (.inr hphase))).go hphase (by simp) (fun _ => trivial) (by simp)
  | paint _ => exact h.paint

end Covered

/-! ## What is remembered -/

theorem shown_apply_of_shown {b : Board} (h : b.screen.shown = none) (c : Change) :
    (c.apply b).screen.shown = none := by
  cases c with
  | forget => rfl
  | resize size =>
      rw [Change.apply]
      rcases b.syncSize_cases size with ⟨-, hsize⟩ | ⟨-, hsize⟩
      · rw [hsize, h]
      · rw [hsize]
  | _ => exact h

def attemptAfter (s : System ι) (k : Nat) : Option Attempt := s.attempts.find? fun p => k < p.count

/-- From a change that forgets what the console shows to the next attempt to paint, and in this
attempt, nothing is remembered. -/
structure Forgetful (s : System ι) : Prop where
  count_le : ∀ p ∈ s.attempts, p.count ≤ s.history.length
  waiting : ∀ (k : Nat) (c : Change), s.history[k]? = some c → c.Forgets →
    s.attemptAfter k = none → s.loop.board.screen.shown = none
  painted : ∀ (k : Nat) (c : Change), s.history[k]? = some c → c.Forgets →
    ∀ p, s.attemptAfter k = some p → p.shown = none

namespace Forgetful

variable {s t : System ι}

theorem initial (b : Board) (out : Stream) : Forgetful (System.initial b out : System ι) := by
  refine ⟨?_, ?_, ?_⟩
  · intro p hp
    cases hp
  · intro k c hc
    cases hc
  · intro k c hc
    cases hc

theorem of_shown (h : Forgetful s) (hshown : t.loop.board.screen.shown = s.loop.board.screen.shown)
    (hhistory : t.history = s.history) (hattempts : t.attempts = s.attempts) : Forgetful t := by
  have hafter : ∀ k, t.attemptAfter k = s.attemptAfter k := by
    intro k
    rw [attemptAfter, hattempts]
    rfl
  refine ⟨?_, ?_, ?_⟩
  · rw [hhistory, hattempts]
    exact h.count_le
  · intro k c hc hforgets hnone
    rw [hshown]
    exact h.waiting k c (hhistory ▸ hc) hforgets (hafter k ▸ hnone)
  · intro k c hc hforgets p hp
    exact h.painted k c (hhistory ▸ hc) hforgets p (hafter k ▸ hp)

theorem go (h : Forgetful s) (p : Phase) : Forgetful (s.go p) := h.of_shown rfl rfl rfl

theorem attemptAfter_eq_none (h : Forgetful s) {k : Nat} (hk : s.history.length ≤ k) :
    s.attemptAfter k = none := by
  rw [attemptAfter, List.find?_eq_none]
  intro p hp
  have := h.count_le p hp
  rw [decide_eq_true_eq]
  omega

theorem change (h : Forgetful s) {c : Change}
    (hc : c.Forgets → (c.apply s.loop.board).screen.shown = none) : Forgetful (s.change c) := by
  have hold : ∀ (k : Nat) (d : Change), (s.change c).history[k]? = some d →
      s.history[k]? = some d ∨ k = s.history.length ∧ d = c := by
    intro k d hd
    change (s.history ++ [c])[k]? = some d at hd
    rw [List.getElem?_append] at hd
    split at hd
    · exact .inl hd
    · rename_i hk
      obtain ⟨hlast, hcd⟩ := List.getElem?_eq_some_iff.mp hd
      rw [List.length_singleton] at hlast
      refine .inr ⟨by omega, ?_⟩
      rw [← hcd, List.getElem_singleton]
  refine ⟨?_, ?_, ?_⟩
  · intro p hp
    refine Nat.le_trans (h.count_le p hp) ?_
    change s.history.length ≤ (s.history ++ [c]).length
    simp
  · intro k d hd hforgets hnone
    rcases hold k d hd with hd | ⟨-, rfl⟩
    · exact shown_apply_of_shown (h.waiting k d hd hforgets hnone) c
    · exact hc hforgets
  · intro k d hd hforgets p hp
    rcases hold k d hd with hd | ⟨hk, -⟩
    · exact h.painted k d hd hforgets p hp
    · have hnone := h.attemptAfter_eq_none (Nat.le_of_eq hk.symm)
      cases hnone.symm.trans hp

theorem paint (h : Forgetful s) : Forgetful s.paint := by
  have hafter : ∀ k, k < s.history.length →
      s.paint.attemptAfter k = (s.attemptAfter k).or (some s.attempt) := by
    intro k hk
    have hcount : k < s.attempt.count := hk
    change (s.attempts ++ [s.attempt]).find? (fun p => k < p.count) = _
    rw [List.find?_append, List.find?_singleton, if_pos (decide_eq_true hcount)]
    rfl
  refine ⟨?_, ?_, ?_⟩
  · intro p hp
    rcases List.mem_append.mp hp with hp | hp
    · exact h.count_le p hp
    · rw [List.mem_singleton.mp hp]
      exact Nat.le_refl _
  · intro k c hc _ hnone
    obtain ⟨hk, -⟩ := List.getElem?_eq_some_iff.mp hc
    rw [hafter k hk] at hnone
    cases hbefore : s.attemptAfter k with
    | none => simp [hbefore] at hnone
    | some p => simp [hbefore] at hnone
  · intro k c hc hforgets p hp
    obtain ⟨hk, -⟩ := List.getElem?_eq_some_iff.mp hc
    rw [hafter k hk] at hp
    cases hbefore : s.attemptAfter k with
    | none =>
        rw [hbefore, Option.none_or, Option.some.injEq] at hp
        rw [← hp]
        exact h.waiting k c hc hforgets hbefore
    | some q =>
        rw [hbefore, Option.some_or, Option.some.injEq] at hp
        rw [← hp]
        exact h.painted k c hc hforgets q hbefore

theorem step [DecidableEq ι] (h : Forgetful s) (hstep : Step s t) : Forgetful t := by
  cases hstep with
  | change i c _ hopen =>
      refine (h.change fun hforgets => ?_).of_shown rfl rfl rfl
      cases c with
      | forget => rfl
      | resize size => exact absurd hopen id
      | _ => exact absurd hforgets id
  | forget _ => exact (h.change fun _ => rfl).go _
  | takeSize size isAsked _ hchanged =>
      refine (h.change fun _ => ?_).of_shown rfl rfl rfl
      rw [Change.apply]
      rcases s.loop.board.syncSize_cases size with ⟨-, hsize⟩ | ⟨-, hsize⟩
      · rw [hsize] at hchanged
        cases hchanged
      · rw [hsize]
  | refresh d _ => exact (h.change fun hforgets => absurd hforgets id).go _
  | paint _ => exact h.paint.go _
  | _ => exact h.of_shown rfl rfl rfl

end Forgetful

/-! ## No change is lost -/

variable [DecidableEq ι]

/-- Every change that a repaint has been asked for is part of a picture that the loop has
attempted to paint, or a request is waiting, or the loop is about to paint, or it has ended.
After what is shown has been forgotten or the size has changed, the next attempt to paint starts
from nothing. -/
theorem no_change_is_lost {b : Board} {out : Stream} {s : System ι} (h : Reachable b out s) :
    (∀ k ∈ s.asked, k < s.history.length ∧
      ((∃ p ∈ s.attempts, k < p.count ∧
          p.picture = (replay b (s.history.take p.count)).picture) ∨
        s.loop.board.isRequested = true ∨ s.phase.OwesPaint ∨ s.phase = .ended)) ∧
    ∀ (k : Nat) (c : Change), s.history[k]? = some c → c.Forgets →
      (∀ p, s.attemptAfter k = some p → p.shown = none) ∧
      (s.attemptAfter k = none → s.loop.board.screen.shown = none) := by
  have hfaithful : Faithful b s := h.invariant (.initial b out) fun _ _ => Faithful.step
  have hcovered : Covered s := h.invariant (.initial b out) fun _ _ => Covered.step
  have hforgetful : Forgetful s := h.invariant (.initial b out) fun _ _ => Forgetful.step
  refine ⟨?_, fun k c hc hforgets => ⟨hforgetful.painted k c hc hforgets,
    hforgetful.waiting k c hc hforgets⟩⟩
  intro k hk
  refine ⟨hcovered.asked_lt k hk, ?_⟩
  rcases hcovered.covers k hk with ⟨p, hp, hcount⟩ | hwaiting
  · exact .inl ⟨p, hp, hcount, (hfaithful.attempts p hp).2⟩
  · exact .inr hwaiting

def emptyBoard : Board := .start (.fresh ⟨3, 2⟩ .plain) 5

/-- A loop that has painted once, and then a thread has forgotten what is shown. -/
def forgottenOnce : System Unit :=
  let asleep := ((initial emptyBoard .endless).request.go .checking).go .asleep
  let painting := (asleep.takeRequest.go (.measuring true)).go .painting
  ((painting.paint.go .checking).change .forget).note () (some 0)

/-- The thread asks when the loop sleeps, and the loop paints again. -/
def paintedTwice : System Unit :=
  let asked := ((forgottenOnce.go .asleep).ask 0).note () none
  ((asked.takeRequest.go (.measuring true)).go .painting).paint.go .checking

theorem reachable_paintedTwice : Reachable emptyBoard .endless paintedTwice := by
  have hinitial : Reachable emptyBoard .endless (initial emptyBoard .endless : System Unit) :=
    Relation.ReflTransGen.refl
  have hpainting : Reachable emptyBoard .endless
      (((((initial emptyBoard .endless).request.go .checking).go .asleep).takeRequest.go
        (.measuring true)).go .painting) :=
    (((hinitial.tail (.begin rfl)).tail (.sleep rfl rfl)).tail (.take rfl rfl)).tail
      (.keepSize ⟨3, 2⟩ true rfl rfl)
  have hforgotten : Reachable emptyBoard .endless forgottenOnce :=
    (hpainting.tail (.paint rfl)).tail (.change () .forget rfl trivial)
  have hasked : Reachable emptyBoard .endless (((forgottenOnce.go .asleep).ask 0).note () none) :=
    (hforgotten.tail (.sleep rfl (by decide +kernel))).tail (.ask () 0 rfl)
  exact ((hasked.tail (.take rfl rfl)).tail
    (.keepSize ⟨3, 2⟩ true rfl (by decide +kernel))).tail (.paint rfl)

/-- The change is part of what has been painted, and this paint has started from nothing although
something was shown. -/
theorem painted_after_forgetting :
    Reachable emptyBoard .endless paintedTwice ∧
    (paintedTwice.attemptAfter 0).isSome = true ∧
    (∃ p ∈ paintedTwice.attempts, 0 < p.count ∧
      p.picture = (replay emptyBoard (paintedTwice.history.take p.count)).picture) ∧
    ∀ p, paintedTwice.attemptAfter 0 = some p → p.shown = none := by
  have hrequest : paintedTwice.loop.board.isRequested = false := by decide +kernel
  obtain ⟨hasked, hforgets⟩ := no_change_is_lost reachable_paintedTwice
  refine ⟨reachable_paintedTwice, by decide +kernel, ?_, (hforgets 0 .forget rfl trivial).1⟩
  rcases (hasked 0 (List.mem_singleton.mpr rfl)).2 with hpaint | hwaiting | hphase | hended
  · exact hpaint
  · cases hrequest.symm.trans hwaiting
  · exact absurd hphase id
  · cases hended

end System

end StatusBoard.Board
