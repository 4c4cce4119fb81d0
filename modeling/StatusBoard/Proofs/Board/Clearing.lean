import StatusBoard.Proofs.Board.Requests
import StatusBoard.Proofs.Board.Upkeep

/-!
Clears and requests to send every row are neither lost nor undone by a draw.

What a tick still has to do is read off its stage: a tick that is to reset the console or to forget
what is shown cannot get to its refresh before.  And what the screen remembers was drawn after the
last time that it was forgotten, since no draw is in progress then.

What is shown is forgotten in a step of its own, and asking for a repaint is the next one.  A draw
may begin between the two: it sends every row, and the draw after it builds upon nothing older.
-/

namespace StatusBoard.Board

open Terminal (Command Screen Theme)

/-! ## What one step changes -/

/-- Whether what is shown is still to be forgotten in a tick. -/
def Stage.OwesInvalidation : Stage → Prop
  | clearing | invalidating => True
  | _ => False

/-- How many resets there are to come in a tick. -/
def Stage.resetsDue : Stage → Nat
  | clearing => 1
  | _ => 0

/-- How many refreshes have been made in a tick that is not yet counted. -/
def Stage.uncounted : Stage → Nat
  | announcing | counting => 1
  | _ => 0

/-- Whether a tick has begun and is not yet counted. -/
def Stage.InTick : Stage → Prop
  | ready | resting | ended => False
  | _ => True

theorem Stage.resetsDue_first (clears isForced : Bool) :
    (first clears isForced).resetsDue = if clears then 1 else 0 := by
  cases clears <;> cases isForced <;> rfl

theorem Stage.uncounted_first (clears isForced : Bool) : (first clears isForced).uncounted = 0 := by
  cases clears <;> cases isForced <;> rfl

theorem Stage.owesInvalidation_first {clears isForced : Bool} (h : (clears || isForced) = true) :
    (first clears isForced).OwesInvalidation := by
  cases clears with
  | true => trivial
  | false =>
      cases isForced with
      | true => trivial
      | false => cases h

theorem Change.theme_apply (b : Board) (c : Change) :
    (c.apply b).screen.theme = b.screen.theme := by
  cases c with
  | resize size =>
      rw [apply]
      rcases b.syncSize_cases size with ⟨-, hsize⟩ | ⟨-, hsize⟩
      · rw [hsize]
      · rw [hsize]
  | _ => rfl

theorem Change.shown_apply {b : Board} {c : Change} {p : Canvas}
    (h : (c.apply b).screen.shown = some p) : b.screen.shown = some p := by
  cases c with
  | forget => cases h
  | resize size =>
      rw [apply] at h
      rcases b.syncSize_cases size with ⟨-, hsize⟩ | ⟨-, hsize⟩
      · rw [hsize] at h
        exact h
      · rw [hsize] at h
        cases h
  | _ => exact h

namespace Event

def isBegin : Event → Bool
  | .begin _ => true
  | _ => false

def isReset : Event → Bool
  | .reset _ => true
  | _ => false

def isRefresh : Event → Bool
  | .refresh => true
  | _ => false

def isComplete : Event → Bool
  | .complete => true
  | _ => false

/-- Whether a draw is over. -/
def isEnd : Event → Bool
  | .drawn | .abandon => true
  | _ => false

def sent : Event → List UInt8
  | .send bytes => bytes
  | _ => []

end Event

namespace Upkeep

/-- Events among which no tick begins. -/
def SameTick (es : List Event) : Prop := ∀ e ∈ es, e.isBegin = false

/-- Whether the tick after some events clears.  Ticks are counted in 64 bits. -/
def clearsAfter (every : Nat) (es : List Event) : Bool :=
  Cadence.clears (UInt64.ofNat (es.countP Event.isComplete)).toNat every

variable {every : Nat} {s t u : Upkeep} {e : Event} {es : List Event}

namespace Step

theorem of_begin {isForced : Bool} (h : Step every s (.begin isForced) t) :
    s.stage = .ready ∧ s.ticker.isForced = isForced ∧ t = s.begun every := by
  cases h with
  | begin hready => exact ⟨hready, rfl, rfl⟩

theorem of_draw {c : Canvas} {base : Option Canvas} (h : Step every s (.draw c base) t) :
    s.board.picture = c ∧ s.board.screen.base c = base ∧ t.drawing = some (.begin s.board) := by
  cases h with
  | draw => exact ⟨rfl, rfl, rfl⟩

theorem isForced_eq (h : Step every s e t) :
    t.ticker.isForced = match e with
      | .hangup => true
      | .begin _ => false
      | _ => s.ticker.isForced := by
  cases h <;> rfl

theorem ticks_eq (h : Step every s e t) :
    t.ticker.ticks = s.ticker.ticks + UInt64.ofNat (if e.isComplete then 1 else 0) := by
  cases h <;> simp [Event.isComplete, mapBoard, go, begun]

theorem theme_eq (h : Step every s e t) : t.board.screen.theme = s.board.screen.theme := by
  cases h with
  | change c _ => exact c.theme_apply s.board
  | _ => rfl

theorem resets (h : Step every s e t) (he : e.isBegin = false) :
    (if e.isReset then 1 else 0) + t.stage.resetsDue = s.stage.resetsDue := by
  cases h with
  | begin => cases he
  | _ => simp [*, Event.isReset, Stage.resetsDue, mapBoard, go]

theorem refreshes (h : Step every s e t) :
    (if e.isRefresh then 1 else 0) + s.stage.uncounted =
      (if e.isComplete then 1 else 0) + t.stage.uncounted := by
  cases h with
  | begin hready =>
      have hbegun : (s.begun every).stage.uncounted = 0 := Stage.uncounted_first _ _
      rw [hbegun, hready]
      rfl
  | _ => simp [*, Event.isRefresh, Event.isComplete, Stage.uncounted, mapBoard, go]

theorem owes (h : Step every s e t) (hs : s.stage.OwesInvalidation) (he : e ≠ .invalidate) :
    t.stage.OwesInvalidation := by
  cases h with
  | invalidate => exact absurd rfl he
  | reset => trivial
  | begin hstage | ask hstage | refresh d hstage | announce hstage | complete hstage
  | rest hstage | stop hstage => simp [hstage, Stage.OwesInvalidation] at hs
  | _ => exact hs

/-- What a draw has still to send gets less by what is sent, and by nothing else. -/
theorem sends {d : Drawing} (h : Step every s e t) (hd : s.drawing = some d)
    (he : e.isEnd = false) :
    ∃ d', t.drawing = some d' ∧ d'.picture = d.picture ∧ d.unsent = e.sent ++ d'.unsent := by
  cases h with
  | send n hd' =>
      obtain rfl := Option.some.inj (hd'.symm.trans hd)
      exact ⟨_, rfl, rfl, (List.take_append_drop n _).symm⟩
  -- These wait until no draw is in progress.
  | invalidate _ hfree | refresh _ _ hfree | change _ hfree | draw hfree =>
      cases hfree.symm.trans hd
  | drawn | abandon => cases he
  | _ => exact ⟨d, hd, rfl, rfl⟩

end Step

/-! ## Ticks in a run -/

namespace Run

theorem ticks_eq (h : Run every s es t) :
    t.ticker.ticks = s.ticker.ticks + UInt64.ofNat (es.countP Event.isComplete) := by
  induction h with
  | nil => simp
  | cons hstep _ ih =>
      rw [ih, hstep.ticks_eq, List.countP_cons, UInt64.add_assoc, ← UInt64.ofNat_add, Nat.add_comm]

theorem theme_eq (h : Run every s es t) : t.board.screen.theme = s.board.screen.theme := by
  induction h with
  | nil => rfl
  | cons hstep _ ih => exact ih.trans hstep.theme_eq

theorem resets (h : Run every s es t) (hes : SameTick es) :
    es.countP Event.isReset + t.stage.resetsDue = s.stage.resetsDue := by
  induction h with
  | nil => exact Nat.zero_add _
  | cons hstep _ ih =>
      have hfirst := hstep.resets (hes _ (List.mem_cons_self ..))
      have hrest := ih fun e he => hes e (List.mem_cons_of_mem _ he)
      rw [List.countP_cons]
      omega

theorem refreshes (h : Run every s es t) :
    es.countP Event.isRefresh + s.stage.uncounted =
      es.countP Event.isComplete + t.stage.uncounted := by
  induction h with
  | nil => rfl
  | cons hstep _ ih =>
      have hfirst := hstep.refreshes
      rw [List.countP_cons, List.countP_cons]
      omega

/-- Once a tick has to forget what is shown, it gets nowhere else before. -/
theorem owes (h : Run every s es t) (hs : s.stage.OwesInvalidation) (hes : .invalidate ∉ es) :
    t.stage.OwesInvalidation :=
  h.keeps (fun _ _ _ hs he hstep => hstep.owes hs he) (fun _ he heq => hes (heq ▸ he)) hs

/-- A request is there until a tick begins. -/
theorem isForced_of_sameTick (h : Run every s es t) (hes : SameTick es)
    (hs : s.ticker.isForced = true) : t.ticker.isForced = true := by
  refine h.keeps (I := fun u => u.ticker.isForced = true) (p := fun e => e.isBegin = true) ?_
    (fun e he => by simp [hes e he]) hs
  intro s e t hs he hstep
  rw [hstep.isForced_eq]
  cases e with
  | begin => exact absurd rfl he
  | hangup => rfl
  | _ => exact hs

/-- Nothing but a hangup makes a request. -/
theorem hangup_mem (h : Run every s es t) (hs : s.ticker.isForced = false)
    (ht : t.ticker.isForced = true) : .hangup ∈ es := by
  by_contra hes
  have hkept : t.ticker.isForced = false := by
    refine h.keeps (I := fun u => u.ticker.isForced = false) (p := (· = .hangup)) ?_
      (fun e he heq => hes (heq ▸ he)) hs
    intro s e t hs he hstep
    rw [hstep.isForced_eq]
    cases e with
    | hangup => exact absurd rfl he
    | begin => rfl
    | _ => exact hs
  rw [hkept] at ht
  cases ht

theorem exists_hangup (h : Run every s es t) (hes : SameTick es) (hs : s.ticker.isForced = false)
    (ht : t.ticker.isForced = true) :
    ∃ earlier during, es = earlier ++ .hangup :: during ∧ SameTick during := by
  obtain ⟨earlier, during, rfl⟩ := List.append_of_mem (h.hangup_mem hs ht)
  exact ⟨earlier, during, rfl, fun e he =>
    hes e (List.mem_append_right _ (List.mem_cons_of_mem _ he))⟩

theorem sends {d : Drawing} (h : Run every s es t) (hd : s.drawing = some d)
    (hes : ∀ e ∈ es, e.isEnd = false) :
    ∃ d', t.drawing = some d' ∧ d'.picture = d.picture ∧
      d.unsent = es.flatMap Event.sent ++ d'.unsent := by
  induction h generalizing d with
  | nil => exact ⟨d, hd, rfl, rfl⟩
  | cons hstep _ ih =>
      obtain ⟨d', hd', hpicture, hunsent⟩ := hstep.sends hd (hes _ (List.mem_cons_self ..))
      obtain ⟨d'', hd'', hpicture', hunsent'⟩ :=
        ih hd' fun e he => hes e (List.mem_cons_of_mem _ he)
      refine ⟨d'', hd'', hpicture'.trans hpicture, ?_⟩
      rw [hunsent, hunsent', List.flatMap_cons, List.append_assoc]

end Run

/-- Among some events there is a last begin of a tick, if there is one. -/
theorem exists_last_begin (es : List Event) :
    SameTick es ∨ ∃ before isForced during,
      es = before ++ .begin isForced :: during ∧ SameTick during := by
  induction es with
  | nil => exact .inl fun _ he => absurd he List.not_mem_nil
  | cons e es ih =>
      rcases ih with hes | ⟨before, isForced, during, rfl, hduring⟩
      · cases e with
        | begin isForced => exact .inr ⟨[], isForced, es, rfl, hes⟩
        | _ => exact .inl (List.forall_mem_cons.mpr ⟨rfl, hes⟩)
      · exact .inr ⟨e :: before, isForced, during, rfl, hduring⟩

/-- An event in a tick: what came before the tick began, whether there was a request then, and what
has come since. -/
def Within (es before : List Event) (isForced : Bool) (during : List Event) (e : Event) : Prop :=
  SameTick during ∧ ∃ after, es = before ++ .begin isForced :: (during ++ e :: after)

theorem Run.within {before during : List Event} {isForced : Bool} (h : Run every s es u)
    (hes : Within es before isForced during e) :
    ∃ t v v', Run every s before t ∧ t.ticker.isForced = isForced ∧
      Run every (t.begun every) during v ∧ Step every v e v' := by
  obtain ⟨-, after, rfl⟩ := hes
  obtain ⟨t, t', hbefore, hbegin, hrest⟩ := h.split_cons
  obtain ⟨v, v', hduring, hstep, -⟩ := hrest.split_cons
  obtain ⟨-, hforced, rfl⟩ := hbegin.of_begin
  exact ⟨t, v, v', hbefore, hforced, hduring, hstep⟩

theorem Run.clearsNext_eq {b : Board} {isForced : Bool} (h : Run every (start b isForced) es t) :
    t.ticker.clearsNext every = clearsAfter every es := by
  rw [Ticker.clearsNext, h.ticks_eq]
  simp [start, Ticker.start, clearsAfter]

/-! ## What the screen remembers -/

/-- A canvas whose draw has begun and is not over. -/
def Unfinished (es : List Event) (c : Canvas) : Prop :=
  ∃ before base during, es = before ++ .draw c base :: during ∧ ∀ e ∈ during, e.isEnd = false

/-- The canvas of the last draw that did not fail. -/
def LastDrawn (es : List Event) (c : Canvas) : Prop :=
  ∃ before after, es = before ++ .drawn :: after ∧ Unfinished before c ∧ .drawn ∉ after

theorem Unfinished.concat {c : Canvas} (h : Unfinished es c) (he : e.isEnd = false) :
    Unfinished (es ++ [e]) c := by
  obtain ⟨before, base, during, rfl, hduring⟩ := h
  refine ⟨before, base, during ++ [e], by simp, ?_⟩
  rw [List.forall_mem_append, List.forall_mem_singleton]
  exact ⟨hduring, he⟩

theorem LastDrawn.concat {c : Canvas} (h : LastDrawn es c) (he : e ≠ .drawn) :
    LastDrawn (es ++ [e]) c := by
  obtain ⟨before, after, rfl, hbefore, hafter⟩ := h
  refine ⟨before, after ++ [e], by simp, hbefore, ?_⟩
  rw [List.mem_append, List.mem_singleton, not_or]
  exact ⟨hafter, he.symm⟩

theorem LastDrawn.exists_draw {c : Canvas} (h : LastDrawn es c) : ∃ base, .draw c base ∈ es := by
  obtain ⟨before, after, rfl, ⟨first, base, during, rfl, -⟩, -⟩ := h
  exact ⟨base, by simp⟩

/-- What is remembered or being drawn comes from these events. -/
structure Remembers (es : List Event) (s : Upkeep) : Prop where
  shown : ∀ c, s.board.screen.shown = some c → LastDrawn es c
  drawing : ∀ d, s.drawing = some d → Unfinished es d.picture

namespace Remembers

theorem of_forgotten (hshown : s.board.screen.shown = none) (hfree : s.drawing = none) :
    Remembers es s := by
  constructor
  · intro c hc
    cases hshown.symm.trans hc
  · intro d hd
    cases hfree.symm.trans hd

theorem step (h : Remembers es s) (hstep : Step every s e t) : Remembers (es ++ [e]) t := by
  cases hstep with
  -- A draw that the reset has come into is over by now.
  | invalidate hstage hfree => exact of_forgotten rfl hfree
  | draw hfree =>
      refine ⟨fun c hc => (h.shown c hc).concat (by simp), ?_⟩
      intro d hd
      cases hd
      exact ⟨es, _, [], rfl, by simp⟩
  | send n hd' =>
      refine ⟨fun c hc => (h.shown c hc).concat (by simp), ?_⟩
      intro d hd
      cases hd
      exact (h.drawing _ hd').concat rfl
  | drawn hd' =>
      constructor
      · intro c hc
        cases hc
        exact ⟨es, [], rfl, h.drawing _ hd', List.not_mem_nil⟩
      · intro d hd
        cases hd
  | abandon hd' =>
      refine ⟨fun c hc => (h.shown c hc).concat (by simp), ?_⟩
      intro d hd
      cases hd
  | change c hfree =>
      refine ⟨fun p hp => (h.shown p (Change.shown_apply hp)).concat (by simp), ?_⟩
      intro d hd
      cases hfree.symm.trans hd
  | _ =>
      exact ⟨fun c hc => (h.shown c hc).concat (by simp), fun d hd => (h.drawing d hd).concat rfl⟩

end Remembers

/-- After what is shown has been forgotten, nothing is remembered but what has been drawn since,
from its first row to its last. -/
theorem Run.remembers (h : Run every s es t) (hforgotten : Step every u .invalidate s) :
    Remembers es t := by
  refine h.invariant (I := Remembers) (fun _ _ _ _ h => h.step) ?_
  cases hforgotten with
  | invalidate _ hfree => exact .of_forgotten rfl hfree

theorem Run.shown_eq_none (h : Run every s es t) (hforgotten : Step every u .invalidate s)
    (hes : ∀ c base, .draw c base ∉ es) : t.board.screen.shown = none := by
  rw [Option.eq_none_iff_forall_not_mem]
  intro c hc
  obtain ⟨base, hdraw⟩ := ((h.remembers hforgotten).shown c hc).exists_draw
  exact hes c base hdraw

/-- A draw that does not fail sends all its commands before it is over, and nothing else. -/
theorem Run.sent_of_drawn {c : Canvas} {base : Option Canvas} {sending after : List Event}
    (hdraw : Step every s (.draw c base) t) (h : Run every t (sending ++ .drawn :: after) u)
    (hsending : ∀ e ∈ sending, e.isEnd = false) :
    sending.flatMap Event.sent = Command.encode (s.board.screen.drawCommands c) := by
  obtain ⟨v, v', hrun, hdrawn, -⟩ := h.split_cons
  obtain ⟨rfl, -, hdrawing⟩ := hdraw.of_draw
  obtain ⟨d, hd, -, hunsent⟩ := hrun.sends hdrawing hsending
  cases hdrawn with
  | drawn hv =>
      obtain rfl := Option.some.inj (hv.symm.trans hd)
      rw [List.append_nil] at hunsent
      exact hunsent.symm

/-! ## Clears, requests and ticks of a run -/

/-- A console that is reset in a tick is sent every row by the first draw after it, and rows are
left out later for what has been drawn since only. -/
structure ClearsAreRepainted (every : Nat) (theme : Theme) (es : List Event) : Prop where
  /-- What is shown is forgotten after the reset. -/
  reset_first : ∀ {before during isForced}, Within es before isForced during .invalidate →
    clearsAfter every before = true → ∃ part, .reset part ∈ during
  forgets : ∀ {before during isForced}, Within es before isForced during .refresh →
    clearsAfter every before = true → .invalidate ∈ during
  drawn_since : ∀ {before during after c p},
    es = before ++ .invalidate :: (during ++ .draw c (some p) :: after) → LastDrawn during p
  sends_all : ∀ {before during sending after c base},
    es = before ++ .invalidate :: (during ++ .draw c base :: (sending ++ .drawn :: after)) →
    (∀ p q, .draw p q ∉ during) → (∀ e ∈ sending, e.isEnd = false) →
    sending.flatMap Event.sent =
      Command.encode ([.resetColor, .clear] ++ Screen.allRows theme c)

/-- A request is taken by the first tick that begins after it, which forgets what is shown, and by
no other. -/
structure RequestsAreHeeded (isForced : Bool) (es : List Event) : Prop where
  taken : ∀ {before during after isForced},
    es = before ++ .hangup :: (during ++ .begin isForced :: after) → SameTick during →
    isForced = true
  forgets : ∀ {before during}, Within es before true during .refresh → .invalidate ∈ during
  /-- A tick that takes a request has one of its own, made since the tick before began. -/
  own : ∀ {before after}, es = before ++ .begin true :: after →
    (isForced = true ∧ SameTick before) ∨
      ∃ earlier during, before = earlier ++ .hangup :: during ∧ SameTick during

/-- Ticks clear when they have to, and each refreshes the board once. -/
structure TicksAreRegular (every : Nat) (es : List Event) : Prop where
  clears : ∀ {before during isForced}, Within es before isForced during .complete →
    during.countP Event.isReset = if clearsAfter every before then 1 else 0
  clears_only : ∀ {before after part}, es = before ++ .reset part :: after →
    ∃ earlier isForced during, before = earlier ++ .begin isForced :: during ∧
      SameTick during ∧ clearsAfter every earlier = true ∧ during.countP Event.isReset = 0
  refreshed : ∀ {before after}, es = before ++ .complete :: after →
    before.countP Event.isRefresh = before.countP Event.isComplete + 1
  settled : ∀ {before after isForced}, es = before ++ .begin isForced :: after →
    before.countP Event.isRefresh = before.countP Event.isComplete

section

variable {b : Board} {isForced : Bool} (h : Run every (start b isForced) es s)

include h

/-- How often the console has been reset in a tick is known from what is still to be done. -/
theorem Run.resets_within {before during : List Event} {forced : Bool}
    (hes : Within es before forced during e) :
    ∃ v v', Step every v e v' ∧ during.countP Event.isReset + v.stage.resetsDue =
      if clearsAfter every before then 1 else 0 := by
  obtain ⟨t, v, v', hbefore, -, hduring, hstep⟩ := h.within hes
  refine ⟨v, v', hstep, ?_⟩
  rw [hduring.resets hes.1, begun, Stage.resetsDue_first, hbefore.clearsNext_eq]

/-- A tick that clears or takes a request does not get to its refresh before it has forgotten what
is shown. -/
theorem Run.forgets_within {before during : List Event} {forced : Bool}
    (hes : Within es before forced during .refresh)
    (hfirst : (clearsAfter every before || forced) = true) : .invalidate ∈ during := by
  by_contra hnone
  obtain ⟨t, v, v', hbefore, rfl, hduring, hrefresh⟩ := h.within hes
  rw [← hbefore.clearsNext_eq] at hfirst
  have howes := hduring.owes (Stage.owesInvalidation_first hfirst) hnone
  cases hrefresh with
  | refresh d hstage => simp [hstage, Stage.OwesInvalidation] at howes

theorem Run.clearsAreRepainted : ClearsAreRepainted every b.screen.theme es := by
  constructor
  case reset_first =>
    intro before during forced hes hclears
    obtain ⟨v, v', hinvalidate, hresets⟩ := h.resets_within hes
    cases hinvalidate with
    | invalidate hstage =>
        rw [hstage, hclears] at hresets
        have hpos : 0 < during.countP Event.isReset := Nat.lt_of_lt_of_eq Nat.one_pos hresets.symm
        obtain ⟨e, he, hreset⟩ := List.countP_pos_iff.mp hpos
        cases e with
        | reset part => exact ⟨part, he⟩
        | _ => cases hreset
  case forgets =>
    intro before during forced hes hclears
    refine h.forgets_within hes ?_
    rw [hclears, Bool.true_or]
  case drawn_since =>
    rintro before during after c p rfl
    obtain ⟨t, t', -, hinvalidate, hrest⟩ := h.split_cons
    obtain ⟨v, v', hduring, hdraw, -⟩ := hrest.split_cons
    obtain ⟨-, hbase, -⟩ := hdraw.of_draw
    exact (hduring.remembers hinvalidate).shown p (Screen.base_eq_some_iff.mp hbase).1
  case sends_all =>
    rintro before during sending after c base rfl hnone hsending
    obtain ⟨t, t', hbefore, hinvalidate, hrest⟩ := h.split_cons
    obtain ⟨v, v', hduring, hdraw, hrest⟩ := hrest.split_cons
    have hsent := Run.sent_of_drawn hdraw hrest hsending
    have hbase : v.board.screen.base c = none := by
      rw [Screen.base, hduring.shown_eq_none hinvalidate hnone]
      rfl
    have htheme : v.board.screen.theme = b.screen.theme :=
      hduring.theme_eq.trans (hinvalidate.theme_eq.trans hbefore.theme_eq)
    rw [hsent, Screen.drawCommands_of_base_eq_none hbase, htheme]

theorem Run.requestsAreHeeded : RequestsAreHeeded isForced es := by
  constructor
  case taken =>
    rintro before during after forced rfl hduring
    obtain ⟨t, t', -, hhangup, hrest⟩ := h.split_cons
    obtain ⟨v, v', hbetween, hbegin, -⟩ := hrest.split_cons
    obtain ⟨-, rfl, -⟩ := hbegin.of_begin
    exact hbetween.isForced_of_sameTick hduring hhangup.isForced_eq
  case forgets =>
    intro before during hes
    exact h.forgets_within hes (Bool.or_true _)
  case own =>
    rintro before after rfl
    obtain ⟨v, v', hbefore, hbegin, -⟩ := h.split_cons
    obtain ⟨-, hforced, -⟩ := hbegin.of_begin
    rcases exists_last_begin before with hsame | ⟨earlier, forced, during, rfl, hsame⟩
    · -- In the first tick the request may have been there from the start.
      cases isForced with
      | true => exact .inl ⟨rfl, hsame⟩
      | false => exact .inr (hbefore.exists_hangup hsame rfl hforced)
    · obtain ⟨t, t', -, hfirst, hduring⟩ := hbefore.split_cons
      obtain ⟨before, later, rfl, hlater⟩ := hduring.exists_hangup hsame hfirst.isForced_eq hforced
      exact .inr ⟨earlier ++ .begin forced :: before, later, by simp, hlater⟩

theorem Run.ticksAreRegular : TicksAreRegular every es := by
  constructor
  case clears =>
    intro before during forced hes
    obtain ⟨v, v', hcomplete, hresets⟩ := h.resets_within hes
    cases hcomplete with
    | complete hstage =>
        rw [hstage] at hresets
        exact hresets
  case clears_only =>
    rintro before after part rfl
    rcases exists_last_begin before with hsame | ⟨earlier, forced, during, rfl, hsame⟩
    · obtain ⟨v, v', hbefore, hreset, -⟩ := h.split_cons
      have hresets := hbefore.resets hsame
      cases hreset with
      | reset _ hstage =>
          rw [hstage] at hresets
          exact absurd hresets (Nat.succ_ne_zero _)
    · rw [List.append_assoc, List.cons_append] at h
      obtain ⟨v, v', hreset, hresets⟩ := h.resets_within ⟨hsame, after, rfl⟩
      cases hreset with
      | reset _ hstage =>
          rw [hstage] at hresets
          have hclears : clearsAfter every earlier = true := by
            by_contra hnot
            rw [if_neg hnot] at hresets
            exact absurd hresets (Nat.succ_ne_zero _)
          rw [if_pos hclears] at hresets
          exact ⟨earlier, forced, during, rfl, hsame, hclears, Nat.succ.inj hresets⟩
  case refreshed =>
    rintro before after rfl
    obtain ⟨v, v', hbefore, hcomplete, -⟩ := h.split_cons
    have hrefreshes := hbefore.refreshes
    cases hcomplete with
    | complete hstage =>
        rw [hstage] at hrefreshes
        exact hrefreshes
  case settled =>
    rintro before after forced rfl
    obtain ⟨v, v', hbefore, hbegin, -⟩ := h.split_cons
    have hrefreshes := hbefore.refreshes
    obtain ⟨hready, -, -⟩ := hbegin.of_begin
    rw [hready] at hrefreshes
    exact hrefreshes

end

/-! ## Ticks come to their end -/

/-- Whether the tick in progress can be brought to its end. -/
def CanRest (every : Nat) (s : Upkeep) : Prop :=
  ∃ es t, Run every s es t ∧ SameTick es ∧ t.stage = .resting

namespace CanRest

theorem of_step (hstep : Step every s e t) (he : e.isBegin = false) (ht : CanRest every t) :
    CanRest every s := by
  obtain ⟨es, u, hrun, hes, hresting⟩ := ht
  exact ⟨e :: es, u, .cons hstep hrun, List.forall_mem_cons.mpr ⟨he, hes⟩, hresting⟩

theorem of_resting (h : s.stage = .resting) : CanRest every s :=
  ⟨[], s, .nil, fun _ he => absurd he List.not_mem_nil, h⟩

theorem of_counting (h : s.stage = .counting) : CanRest every s :=
  of_step (.complete h) rfl (of_resting rfl)

theorem of_announcing (h : s.stage = .announcing) : CanRest every s :=
  of_step (.announce h) rfl (of_counting rfl)

theorem of_refreshing (h : s.stage = .refreshing) (hfree : s.drawing = none) : CanRest every s :=
  of_step (.refresh ⟨"", "", 0, [], []⟩ h hfree) rfl (of_announcing rfl)

theorem of_asking (h : s.stage = .asking) (hfree : s.drawing = none) : CanRest every s :=
  of_step (.ask h) rfl (of_refreshing rfl hfree)

theorem of_invalidating (h : s.stage = .invalidating) (hfree : s.drawing = none) :
    CanRest every s :=
  of_step (.invalidate h hfree) rfl (of_asking rfl hfree)

theorem of_clearing (h : s.stage = .clearing) (hfree : s.drawing = none) : CanRest every s :=
  of_step (.reset Command.fullReset h List.prefix_rfl) rfl (of_invalidating rfl hfree)

theorem of_free (hs : s.stage.InTick) (hfree : s.drawing = none) : CanRest every s := by
  cases hstage : s.stage with
  | clearing => exact of_clearing hstage hfree
  | invalidating => exact of_invalidating hstage hfree
  | asking => exact of_asking hstage hfree
  | refreshing => exact of_refreshing hstage hfree
  | announcing => exact of_announcing hstage
  | counting => exact of_counting hstage
  | ready | resting | ended =>
      rw [hstage] at hs
      exact hs.elim

/-- A draw in progress only has to be brought to its end first. -/
theorem of_inTick (hs : s.stage.InTick) : CanRest every s := by
  cases hd : s.drawing with
  | none => exact of_free hs hd
  | some d => exact of_step (.sendAll hd every) rfl (of_step (.drawn rfl) rfl (of_free hs rfl))

end CanRest

/-- Whatever the scheduler, the event loop and hangups do, and in whatever order: a console that has
been reset gets every row from the first draw that begins after what it shows has been forgotten; a
request is taken by the tick after it and by no other; and ticks clear when they have to and refresh
the board once each. -/
theorem clears_and_requests_are_kept {b : Board} {isForced : Bool}
    (h : Run every (start b isForced) es s) :
    ClearsAreRepainted every b.screen.theme es ∧ RequestsAreHeeded isForced es ∧
      TicksAreRegular every es ∧ s.ticker.ticks = UInt64.ofNat (es.countP Event.isComplete) ∧
      (s.stage.InTick → CanRest every s) := by
  refine ⟨h.clearsAreRepainted, h.requestsAreHeeded, h.ticksAreRegular, ?_, CanRest.of_inTick⟩
  rw [h.ticks_eq]
  exact UInt64.zero_add _

/-- The console is reset in the middle of a draw that is brought to its end, and a request comes in
the middle of the tick. -/
def crossed (b : Board) : List Event :=
  let d := Drawing.begin b
  [.draw d.picture (b.screen.base d.picture), .send (d.unsent.take 1), .begin false,
    .reset Command.fullReset, .hangup, .send (d.unsent.drop 1), .drawn]

theorem exists_run_cons (hstep : Step every s e t) (h : ∃ u, Run every t es u) :
    ∃ u, Run every s (e :: es) u := by
  obtain ⟨u, hrun⟩ := h
  exact ⟨u, .cons hstep hrun⟩

theorem exists_run_crossed (b : Board) :
    ∃ s, Run 1 (start b false)
      (crossed b ++ .invalidate ::
        ([.other] ++ .draw b.picture none ::
          ([.send (Drawing.begin b.forget).unsent] ++ .drawn ::
            [.refresh, .other, .complete, .other, .begin true]))) s := by
  let d := Drawing.begin b
  refine exists_run_cons (.draw rfl) ?_
  refine exists_run_cons (.send (d := d) 1 rfl) ?_
  refine exists_run_cons (.begin rfl) ?_
  refine exists_run_cons (.reset Command.fullReset rfl List.prefix_rfl) ?_
  refine exists_run_cons .hangup ?_
  refine exists_run_cons (.sendAll (d := { d with unsent := d.unsent.drop 1 }) rfl 1) ?_
  refine exists_run_cons (.drawn rfl) ?_
  refine exists_run_cons (.invalidate rfl rfl) ?_
  refine exists_run_cons (.ask rfl) ?_
  refine exists_run_cons (.draw rfl) ?_
  refine exists_run_cons (.sendAll (d := .begin b.forget) rfl 1) ?_
  refine exists_run_cons (.drawn rfl) ?_
  refine exists_run_cons (.refresh ⟨"", "", 0, [], []⟩ rfl rfl) ?_
  refine exists_run_cons (.announce rfl) ?_
  refine exists_run_cons (.complete rfl) ?_
  refine exists_run_cons (.rest rfl) ?_
  exact ⟨_, .cons (.begin rfl) .nil⟩

/-- The draw after the one that the reset has come into sends every row, although the board is the
same, and the request is not taken by the tick that was under way. -/
theorem sends_every_row_after_crossing :
    ∃ s, Run 1 (start System.emptyBoard false)
      (crossed System.emptyBoard ++ .invalidate ::
        ([.other] ++ .draw System.emptyBoard.picture none ::
          ([.send (Drawing.begin System.emptyBoard.forget).unsent] ++ .drawn ::
            [.refresh, .other, .complete, .other, .begin true]))) s ∧
      (Drawing.begin System.emptyBoard.forget).unsent =
        Command.encode
          ([.resetColor, .clear] ++ Screen.allRows .plain System.emptyBoard.picture) ∧
      s.ticker.ticks = 1 := by
  obtain ⟨s, h⟩ := exists_run_crossed System.emptyBoard
  obtain ⟨hclears, -, -, hticks, -⟩ := clears_and_requests_are_kept h
  refine ⟨s, h, ?_, hticks⟩
  have hsent := hclears.sends_all rfl (by simp) (by simp [Event.isEnd])
  rwa [List.flatMap_singleton] at hsent

end Upkeep

end StatusBoard.Board
