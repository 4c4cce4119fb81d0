import StatusBoard.Proofs.Board.Requests
import StatusBoard.Proofs.Canvas.Extent

/-!
Frames fit the screen that they are painted on.

The size of the screen and the entries of the frame change in different steps, and threads may
come between them.  A frame is out of fit only from when the loop has taken over another size to
when it has refreshed the board, and the loop does not paint in between.
-/

namespace StatusBoard

theorem Frame.foldl_add (es : List Frame.Entry) (f : Frame) :
    es.foldl Frame.add f = { f with entries := f.entries ++ es } := by
  induction es generalizing f with
  | nil => rw [List.foldl_nil, List.append_nil]
  | cons e es ih => rw [List.foldl_cons, ih, add, List.append_assoc, List.singleton_append]

/-- A rebuilt frame holds nothing of the frame before. -/
theorem Frame.rebuild_eq (f : Frame) (d : Frame.Facts) (width : Nat) :
    f.rebuild d width = ⟨d.entries width, .log⟩ := by
  rw [rebuild, Frame.foldl_add]
  rfl

namespace Board

def Change.facts? : Change → Option Frame.Facts
  | facts d => some d
  | _ => none

/-- The facts that have been shown last. -/
def lastFacts (cs : List Change) : Option Frame.Facts := (cs.filterMap Change.facts?).getLast?

theorem lastFacts_concat (cs : List Change) (c : Change) :
    lastFacts (cs ++ [c]) = c.facts?.or (lastFacts cs) := by
  rw [lastFacts, List.filterMap_append, List.getLast?_append]
  cases c with
  | facts d => rfl
  | _ => rfl

/-- The frame is what the last facts make of it on a screen as wide as the screen is now. -/
def Fits (b : Board) (cs : List Change) : Prop :=
  ∀ d, lastFacts cs = some d → b.frame = Frame.empty.rebuild d b.screen.size.width

theorem fits_nil (b : Board) : Fits b [] := fun _ h => by cases h

theorem Fits.congr {b b' : Board} {cs : List Change} (h : Fits b cs) (hframe : b'.frame = b.frame)
    (hsize : b'.screen.size = b.screen.size) : Fits b' cs := by
  intro d hd
  rw [hframe, hsize]
  exact h d hd

/-- Showing facts makes the frame fit, whether it did before or not. -/
theorem fits_setFacts (b : Board) (cs : List Change) (d : Frame.Facts) :
    Fits (b.setFacts d) (cs ++ [.facts d]) := by
  intro d' hd'
  rw [lastFacts_concat] at hd'
  obtain rfl : d = d' := Option.some.inj hd'
  rw [Frame.rebuild_eq]
  exact Frame.rebuild_eq ..

/-- Any other change keeps the fit, unless it is one of the size. -/
theorem Fits.apply {b : Board} {cs : List Change} (h : Fits b cs) {c : Change}
    (hc : ∀ size, c ≠ .resize size) : Fits (c.apply b) (cs ++ [c]) := by
  cases c with
  | facts d => exact fits_setFacts b cs d
  | resize size => exact absurd rfl (hc size)
  | _ =>
      intro d hd
      rw [lastFacts_concat] at hd
      exact h d hd

theorem IsOpen.ne_resize {b : Board} {c : Change} (h : c.IsOpen b) (size : Terminal.Size) :
    c ≠ .resize size := by
  rintro rfl
  exact h

namespace System

variable {ι : Type} {b : Board} {s t : System ι}

/-- The frame fits, but for the time in which the loop is to refresh it, and it did fit at each
attempt to paint. -/
structure Fitted (b : Board) (s : System ι) : Prop where
  fits : s.phase ≠ .refreshing → Fits s.loop.board s.history
  attempts : ∀ p ∈ s.attempts, Fits (replay b (s.history.take p.count)) (s.history.take p.count)

namespace Fitted

theorem initial (b : Board) (out : Stream) : Fitted b (System.initial b out : System ι) :=
  ⟨fun _ => fits_nil b, fun p hp => by cases hp⟩

theorem of_eq (h : Fitted b s) (hfits : t.phase ≠ .refreshing → Fits t.loop.board s.history)
    (hhistory : t.history = s.history) (hattempts : t.attempts = s.attempts) : Fitted b t := by
  constructor
  · rw [hhistory]
    exact hfits
  · rw [hhistory, hattempts]
    exact h.attempts

theorem change (h : Fitted b s) (hfaithful : Faithful b s) (c : Change)
    (hfits : t.phase ≠ .refreshing → Fits t.loop.board (s.history ++ [c]))
    (hhistory : t.history = s.history ++ [c]) (hattempts : t.attempts = s.attempts) :
    Fitted b t := by
  constructor
  · rw [hhistory]
    exact hfits
  · intro p hp
    rw [hattempts] at hp
    rw [hhistory, List.take_append_of_le_length (hfaithful.attempts p hp).1]
    exact h.attempts p hp

theorem paint (h : Fitted b s) (hfaithful : Faithful b s) (hphase : s.phase = .painting) :
    Fitted b (s.paint.go .checking) := by
  have hfits : Fits s.loop.board s.history := h.fits (by simp [hphase])
  have hpainted := (Alike.refl s.loop.board).paint s.loop.out
  constructor
  · intro _
    change Fits s.loop.paint.board s.history
    rw [board_paint]
    exact hfits.congr hpainted.frame hpainted.size
  · intro p hp
    rcases List.mem_append.mp hp with hp | hp
    · exact h.attempts p hp
    · obtain rfl := List.mem_singleton.mp hp
      change Fits (replay b (s.history.take s.history.length))
        (s.history.take s.history.length)
      rw [List.take_length]
      exact hfits.congr hfaithful.alike.frame.symm hfaithful.alike.size.symm

theorem step [DecidableEq ι] (h : Fitted b s) (hfaithful : Faithful b s) (hstep : Step s t) :
    Fitted b t := by
  -- A step that does not change the board keeps the fit if the loop does not come from refreshing.
  have hkeep : s.phase ≠ .refreshing → ∀ {t : System ι}, t.loop.board.frame = s.loop.board.frame →
      t.loop.board.screen.size = s.loop.board.screen.size → t.history = s.history →
      t.attempts = s.attempts → Fitted b t := fun hphase _ hframe hsize hhistory hattempts =>
    h.of_eq (fun _ => (h.fits hphase).congr hframe hsize) hhistory hattempts
  cases hstep with
  | change i c _ hopen =>
      exact h.change hfaithful c (fun hphase => (h.fits hphase).apply (IsOpen.ne_resize hopen)) rfl
        rfl
  | ask i k _ => exact h.of_eq (fun hphase => (h.fits hphase).congr rfl rfl) rfl rfl
  | cancel => exact h.of_eq h.fits rfl rfl
  | forget hphase =>
      have hfits : Fits s.loop.board s.history := h.fits (by simp [hphase])
      exact h.change hfaithful .forget (fun _ => hfits.apply nofun) rfl rfl
  | takeSize size isAsked _ _ =>
      exact h.change hfaithful (.resize size) (fun hphase => absurd rfl hphase) rfl rfl
  | refresh d _ =>
      exact h.change hfaithful (.facts d) (fun _ => fits_setFacts _ _ d) rfl rfl
  | paint hphase => exact h.paint hfaithful hphase
  | begin hphase => exact hkeep (by simp [hphase]) rfl rfl rfl rfl
  | leave hphase _ => exact hkeep (by simp [hphase]) rfl rfl rfl rfl
  | sleep hphase _ => exact hkeep (by simp [hphase]) rfl rfl rfl rfl
  | take hphase _ => exact hkeep (by simp [hphase]) rfl rfl rfl rfl
  | interrupt chunk hphase _ => exact hkeep (by simp [hphase]) rfl rfl rfl rfl
  | repaintKey chunk hphase _ _ => exact hkeep (by simp [hphase]) rfl rfl rfl rfl
  | otherInput chunk hphase _ _ => exact hkeep (by simp [hphase]) rfl rfl rfl rfl
  | inputClosed hphase => exact hkeep (by simp [hphase]) rfl rfl rfl rfl
  | timeout hphase => exact hkeep (by simp [hphase]) rfl rfl rfl rfl
  | askForgotten k hphase => exact hkeep (by simp [hphase]) rfl rfl rfl rfl
  | keepSize size isAsked hphase _ => exact hkeep (by simp [hphase]) rfl rfl rfl rfl
  | announce k hphase => exact hkeep (by simp [hphase]) rfl rfl rfl rfl

end Fitted

variable [DecidableEq ι]

theorem Reachable.fitted {out : Stream} (h : Reachable b out s) : Faithful b s ∧ Fitted b s :=
  h.invariant (I := fun s => Faithful b s ∧ Fitted b s) ⟨.initial b out, .initial b out⟩
    fun _ _ ⟨hfaithful, hfitted⟩ hstep => ⟨hfaithful.step hstep, hfitted.step hfaithful hstep⟩

theorem extent_picture (b : Board) :
    b.picture.extent = (b.screen.size.width, b.screen.size.height) := extent_compose ..

/-- At each attempt of the loop to paint, and whenever it is about to make one, the frame is what
the facts shown last make of it for the width that the screen has then, and the picture has the
size of the screen. -/
theorem paints_fit {screen : Terminal.Screen} {lines : Nat} {out : Stream}
    (h : Reachable (.start screen lines) out s) :
    (∀ p ∈ s.attempts, ∃ now, now = replay (.start screen lines) (s.history.take p.count) ∧
      Fits now (s.history.take p.count) ∧ p.picture = now.picture ∧
      p.picture.extent = (now.screen.size.width, now.screen.size.height)) ∧
    (s.phase = .painting → Fits s.loop.board s.history ∧
      s.attempt.picture = s.loop.board.picture ∧
      s.attempt.picture.extent =
        (s.loop.board.screen.size.width, s.loop.board.screen.size.height)) := by
  obtain ⟨hfaithful, hfitted⟩ := h.fitted
  constructor
  · intro p hp
    have hpicture := (hfaithful.attempts p hp).2
    exact ⟨_, rfl, hfitted.attempts p hp, hpicture, hpicture ▸ extent_picture _⟩
  · intro hphase
    exact ⟨hfitted.fits (by simp [hphase]), rfl, extent_picture _⟩

def wideBoard : Board := .start (.fresh ⟨60, 8⟩ .plain) 5

def factsAt (now : Int) : Frame.Facts := ⟨"P", "1", now, ["10.0.0.5/24", "2001:db8::5/64"], []⟩

/-- A loop whose board has been filled by a thread, and which then finds a smaller screen. -/
def resized : System Unit :=
  let filled := ((initial wideBoard .endless).change (.facts (factsAt 0))).note () (some 0)
  let measuring := ((filled.request.go .checking).go .asleep).go (.measuring false)
  ((measuring.change (.resize ⟨30, 8⟩)).report (Loop.resized ⟨30, 8⟩)).go .refreshing

def paintedSmaller : System Unit :=
  let announcing := (resized.change (.facts (factsAt 60))).go (.announcing 2)
  ((announcing.ask 2).go .painting).paint.go .checking

theorem reachable_paintedSmaller : Reachable wideBoard .endless paintedSmaller := by
  have hinitial : Reachable wideBoard .endless (initial wideBoard .endless : System Unit) :=
    Relation.ReflTransGen.refl
  have hasleep : Reachable wideBoard .endless
      ((((((initial wideBoard .endless).change (.facts (factsAt 0))).note ()
        (some 0)).request.go .checking).go .asleep).go (.measuring false)) :=
    (((hinitial.tail (.change () (.facts (factsAt 0)) rfl trivial)).tail (.begin rfl)).tail
      (.sleep rfl rfl)).tail (.timeout rfl)
  have hresized : Reachable wideBoard .endless resized :=
    hasleep.tail (.takeSize ⟨30, 8⟩ false rfl rfl)
  exact ((hresized.tail (.refresh (factsAt 60) rfl)).tail (.announce 2 rfl)).tail (.paint rfl)

/-- The footer is wrapped for the smaller screen, on which it takes a row more. -/
theorem paints_fit_smaller :
    Reachable wideBoard .endless paintedSmaller ∧
    ((factsAt 60).entries 60).length = 4 ∧ ((factsAt 60).entries 30).length = 5 ∧
    ∃ p ∈ paintedSmaller.attempts, ∃ now : Board,
      now.frame = Frame.empty.rebuild (factsAt 60) 30 ∧ p.picture = now.picture ∧
      p.picture.extent = (30, 8) := by
  refine ⟨reachable_paintedSmaller, by decide +kernel, by decide +kernel, ?_⟩
  obtain ⟨p, hp⟩ : ∃ p, p ∈ paintedSmaller.attempts := ⟨_, List.mem_singleton.mpr rfl⟩
  obtain ⟨now, hnow, hfits, hpicture, hextent⟩ := (paints_fit reachable_paintedSmaller).1 p hp
  obtain rfl := List.mem_singleton.mp hp
  have hsize : now.screen.size = ⟨30, 8⟩ := by
    rw [hnow]
    rfl
  refine ⟨_, hp, now, ?_, hpicture, ?_⟩
  · rw [hfits (factsAt 60) rfl, hsize]
  · rw [hextent, hsize]

end System

end Board

end StatusBoard
