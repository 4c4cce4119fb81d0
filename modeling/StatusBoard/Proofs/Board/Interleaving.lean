import StatusBoard.Board.Loop
import Mathlib.Logic.Relation

/-!
The board when threads share it with its event loop.

A thread changes the board and then asks for a repaint, in two steps.  The event loop works in
steps as well, and between any two steps any other thread may have its turn.  A `System` keeps the
history of the changes, which of them have been asked for, and what each attempt to paint has
started from; no step looks at these.
-/

namespace StatusBoard.Board

/-- Taking over a size changes nothing if it is the same, and forgets what is shown if it is not.
-/
theorem syncSize_cases (b : Board) (size : Terminal.Size) :
    (size = b.screen.size ∧ b.syncSize size = (b, false)) ∨
      (size ≠ b.screen.size ∧
        b.syncSize size = ({ b with screen := { b.screen with size, shown := none } }, true)) := by
  unfold syncSize Terminal.Screen.resize
  by_cases h : size = b.screen.size
  · rw [if_pos h]
    exact .inl ⟨h, rfl⟩
  · rw [if_neg h]
    exact .inr ⟨h, rfl⟩

/-- A change of what is to be seen. -/
inductive Change
  | facts (d : Frame.Facts)
  | record (r : Log.Record)
  | modal (m : Modal)
  | noModal
  | forget
  | resize (size : Terminal.Size)

namespace Change

def apply (b : Board) : Change → Board
  | facts d => b.setFacts d
  | record r => b.addRecord r
  | modal m => b.setModal m
  | noModal => b.dropModal.1
  | forget => b.forget
  | resize size => (b.syncSize size).1

/-- Whether a thread can make the change: there has to be a dialog to be removed, and sizes are
taken over by the loop alone. -/
def IsOpen (b : Board) : Change → Prop
  | noModal => b.dropModal.2 = true
  | resize _ => False
  | _ => True

/-- The operation of the board that starts with the change. -/
def operate (b : Board) : Change → Board
  | facts d => b.apply d
  | record r => b.append r
  | modal m => b.showModal m
  | noModal => b.removeModal
  | forget => b.invalidate
  | resize size => (b.syncSize size).1

theorem request_apply {b : Board} {c : Change} (h : c.IsOpen b) :
    (c.apply b).request = c.operate b := by
  cases c with
  | facts d => rw [apply, operate, Board.apply]
  | record r => rw [apply, operate, append]
  | modal m => rw [apply, operate, showModal]
  | noModal =>
      have hremoved : b.dropModal.2 = true := h
      rw [apply, operate, removeModal]
      exact (if_pos hremoved).symm
  | forget => rfl
  | resize size => exact absurd h id

/-- Whether what the console shows is forgotten with the change. -/
def Forgets : Change → Prop
  | forget | resize _ => True
  | _ => False

end Change

def replay (b : Board) (cs : List Change) : Board := cs.foldl Change.apply b

/-- Where the event loop is.  The number is that of the change that it has made and not asked for.
-/
inductive Phase
  | starting
  | checking
  | asleep
  | forgetting
  | asking (k : Nat)
  | measuring (isAsked : Bool)
  | refreshing
  | announcing (k : Nat)
  | painting
  | ended
  deriving DecidableEq

/-- Whether the loop has taken a request or another size and has not painted since. -/
def Phase.OwesPaint : Phase → Prop
  | measuring isAsked => isAsked = true
  | refreshing | announcing _ | painting => True
  | _ => False

/-- An attempt to paint: how many changes have been made before, the picture, and the canvas that
the screen remembers. -/
structure Attempt where
  count : Nat
  picture : Canvas
  shown : Option Canvas

/-- The event loop and the threads. -/
structure System (ι : Type) where
  loop : Loop
  phase : Phase
  /-- The number of the change that a thread has made and not asked for yet. -/
  unasked : ι → Option Nat
  history : List Change
  asked : List Nat
  attempts : List Attempt

namespace System

variable {ι : Type}

/-- A board that no thread has changed yet and whose loop has not begun. -/
def initial (b : Board) (out : Stream) : System ι :=
  ⟨⟨b, out, false, false, []⟩, .starting, fun _ => none, [], [], []⟩

def change (s : System ι) (c : Change) : System ι :=
  { s with loop.board := c.apply s.loop.board, history := s.history ++ [c] }

def request (s : System ι) : System ι := { s with loop.board := s.loop.board.request }

def ask (s : System ι) (k : Nat) : System ι := { s.request with asked := s.asked ++ [k] }

def takeRequest (s : System ι) : System ι :=
  { s with loop.board := s.loop.board.takeRequest.1 }

def attempt (s : System ι) : Attempt :=
  ⟨s.history.length, s.loop.board.picture, s.loop.board.screen.shown⟩

def paint (s : System ι) : System ι :=
  { s with loop := s.loop.paint, attempts := s.attempts ++ [s.attempt] }

def report (s : System ι) (e : Log.Event) : System ι := { s with loop := s.loop.report e }

def stop (s : System ι) : System ι := { s with loop := s.loop.stop }

def go (s : System ι) (p : Phase) : System ι := { s with phase := p }

/-- Note which change a thread has to ask for. -/
def note [DecidableEq ι] (s : System ι) (i : ι) (k : Option Nat) : System ι :=
  { s with unasked := fun j => if j = i then k else s.unasked j }

/-- One step of a thread or of the loop. -/
inductive Step [DecidableEq ι] : System ι → System ι → Prop
  | change {s : System ι} (i : ι) (c : Change) :
      s.unasked i = none → c.IsOpen s.loop.board →
      Step s ((s.change c).note i (some s.history.length))
  | ask {s : System ι} (i : ι) (k : Nat) :
      s.unasked i = some k → Step s ((s.ask k).note i none)
  | cancel {s : System ι} : Step s s.stop
  | begin {s : System ι} : s.phase = .starting → Step s (s.request.go .checking)
  | leave {s : System ι} : s.phase = .checking → s.loop.isEnded = true → Step s (s.go .ended)
  | sleep {s : System ι} : s.phase = .checking → s.loop.isEnded = false → Step s (s.go .asleep)
  | take {s : System ι} :
      s.phase = .asleep → s.loop.board.isRequested = true →
      Step s (s.takeRequest.go (.measuring true))
  | interrupt {s : System ι} (chunk : List UInt8) :
      s.phase = .asleep → chunk.contains interruptKey = true →
      Step s ((s.report Loop.interrupted).stop.go .ended)
  | repaintKey {s : System ι} (chunk : List UInt8) :
      s.phase = .asleep → chunk.contains interruptKey = false →
      chunk.contains repaintKey = true → Step s (s.go .forgetting)
  | otherInput {s : System ι} (chunk : List UInt8) :
      s.phase = .asleep → chunk.contains interruptKey = false →
      chunk.contains repaintKey = false → Step s (s.go (.measuring false))
  | inputClosed {s : System ι} :
      s.phase = .asleep → Step s ((s.report Loop.closed).go (.measuring false))
  | timeout {s : System ι} : s.phase = .asleep → Step s (s.go (.measuring false))
  | forget {s : System ι} :
      s.phase = .forgetting → Step s ((s.change .forget).go (.asking s.history.length))
  | askForgotten {s : System ι} (k : Nat) :
      s.phase = .asking k → Step s ((s.ask k).go (.measuring false))
  | keepSize {s : System ι} (size : Terminal.Size) (isAsked : Bool) :
      s.phase = .measuring isAsked → (s.loop.board.syncSize size).2 = false →
      Step s (s.go (if isAsked then .painting else .checking))
  | takeSize {s : System ι} (size : Terminal.Size) (isAsked : Bool) :
      s.phase = .measuring isAsked → (s.loop.board.syncSize size).2 = true →
      Step s (((s.change (.resize size)).report (Loop.resized size)).go .refreshing)
  | refresh {s : System ι} (d : Frame.Facts) :
      s.phase = .refreshing → Step s ((s.change (.facts d)).go (.announcing s.history.length))
  | announce {s : System ι} (k : Nat) :
      s.phase = .announcing k → Step s ((s.ask k).go .painting)
  | paint {s : System ι} : s.phase = .painting → Step s (s.paint.go .checking)

def Reachable [DecidableEq ι] (b : Board) (out : Stream) (s : System ι) : Prop :=
  Relation.ReflTransGen Step (initial b out) s

/-- What holds at first and is kept by each step holds in every state that is reached. -/
theorem Reachable.invariant [DecidableEq ι] {b : Board} {out : Stream} {s : System ι}
    (h : Reachable b out s) {I : System ι → Prop} (hinitial : I (initial b out))
    (hstep : ∀ s t, I s → Step s t → I t) : I s := by
  induction h with
  | refl => exact hinitial
  | tail _ hst ih => exact hstep _ _ ih hst

/-! ## Operations and rounds on their own -/

variable [DecidableEq ι]

open Relation (ReflTransGen)

/-- An operation of the board is made of two steps of a thread. -/
theorem exists_steps_operate {s : System ι} {i : ι} (hi : s.unasked i = none) {c : Change}
    (hc : c.IsOpen s.loop.board) :
    ∃ t, ReflTransGen Step s t ∧ t.loop = { s.loop with board := c.operate s.loop.board } ∧
      t.unasked i = none := by
  let changed := (s.change c).note i (some s.history.length)
  have hchange : Step s changed := .change i c hi hc
  have hnoted : changed.unasked i = some s.history.length := if_pos rfl
  have hask : Step changed ((changed.ask s.history.length).note i none) := .ask i _ hnoted
  refine ⟨_, (ReflTransGen.single hchange).tail hask, ?_, if_pos rfl⟩
  rw [← Change.request_apply hc]
  rfl

/-- What wakes the loop is dealt with in one step, or in three if what is shown has to be
forgotten. -/
theorem exists_steps_receive {s : System ι} (hphase : s.phase = .asleep)
    (hended : s.loop.isEnded = false) {w : Wake}
    (hw : w = .request → s.loop.board.isRequested = true) :
    ∃ t, ReflTransGen Step s t ∧ t.loop = (s.loop.receive w).1 ∧
      t.phase = if t.loop.isEnded then .ended else .measuring (s.loop.receive w).2 := by
  have hgoes : ∀ p : Phase, p = if s.loop.isEnded then .ended else p := by
    intro p
    rw [hended]
    rfl
  cases w with
  | request => exact ⟨_, .single (.take hphase (hw rfl)), rfl, hgoes _⟩
  | input chunk =>
      rw [Loop.receive]
      cases hinterrupt : chunk.contains interruptKey with
      | true => exact ⟨_, .single (.interrupt chunk hphase hinterrupt), rfl, rfl⟩
      | false =>
          cases hrepaint : chunk.contains repaintKey with
          | true =>
              let forgetting := s.go .forgetting
              let asking := (forgetting.change .forget).go (.asking s.history.length)
              have h1 : Step s forgetting := .repaintKey chunk hphase hinterrupt hrepaint
              have h2 : Step forgetting asking := .forget rfl
              have h3 : Step asking ((asking.ask s.history.length).go (.measuring false)) :=
                .askForgotten s.history.length rfl
              exact ⟨_, ((ReflTransGen.single h1).tail h2).tail h3, rfl, hgoes _⟩
          | false => exact ⟨_, .single (.otherInput chunk hphase hinterrupt hrepaint), rfl, hgoes _⟩
  | inputClosed => exact ⟨_, .single (.inputClosed hphase), rfl, hgoes _⟩
  | timeout => exact ⟨_, .single (.timeout hphase), rfl, hgoes _⟩

theorem adapt_of_same {l : Loop} {a : Answers} (h : (l.board.syncSize a.size).2 = false) :
    l.adapt a = (l, false) := by
  rcases l.board.syncSize_cases a.size with ⟨-, hsize⟩ | ⟨-, hsize⟩
  · rw [Loop.adapt, hsize]
    rfl
  · rw [hsize] at h
    cases h

theorem adapt_of_other {l : Loop} {a : Answers} (h : (l.board.syncSize a.size).2 = true) :
    l.adapt a =
      (({ l with board := (l.board.syncSize a.size).1.apply a.facts }).report (Loop.resized a.size),
        true) := by
  rcases l.board.syncSize_cases a.size with ⟨-, hsize⟩ | ⟨-, hsize⟩
  · rw [hsize] at h
    cases h
  · rw [Loop.adapt, hsize]
    rfl

/-- The size is taken over in one step, or in three if it is another one. -/
theorem exists_steps_adapt {s : System ι} {isAsked : Bool} (hphase : s.phase = .measuring isAsked)
    (a : Answers) :
    ∃ t, ReflTransGen Step s t ∧ t.loop = (s.loop.adapt a).1 ∧
      t.phase = if isAsked || (s.loop.adapt a).2 then .painting else .checking := by
  cases hchanged : (s.loop.board.syncSize a.size).2 with
  | false =>
      rw [adapt_of_same hchanged, Bool.or_false]
      exact ⟨_, .single (.keepSize a.size isAsked hphase hchanged), rfl, rfl⟩
  | true =>
      let refreshing := ((s.change (.resize a.size)).report (Loop.resized a.size)).go .refreshing
      let announcing :=
        (refreshing.change (.facts a.facts)).go (.announcing refreshing.history.length)
      have h1 : Step s refreshing := .takeSize a.size isAsked hphase hchanged
      have h2 : Step refreshing announcing := .refresh a.facts rfl
      have h3 : Step announcing ((announcing.ask refreshing.history.length).go .painting) :=
        .announce refreshing.history.length rfl
      rw [adapt_of_other hchanged, Bool.or_true]
      exact ⟨_, ((ReflTransGen.single h1).tail h2).tail h3, rfl, rfl⟩

/-- A round of the loop is made of steps of the system, those of a run in which no thread
intervenes. -/
theorem exists_steps_round {s : System ι} (hphase : s.phase = .checking)
    (hended : s.loop.isEnded = false) (a : Answers) {w : Wake}
    (hw : w = .request → s.loop.board.isRequested = true) :
    ∃ t, ReflTransGen Step s t ∧ t.loop = s.loop.round a w ∧
      t.phase = if (s.loop.receive w).1.isEnded then .ended else .checking := by
  obtain ⟨t, hreceive, hloop, hgone⟩ :=
    exists_steps_receive (s := s.go .asleep) rfl hended hw
  have hreceive := ReflTransGen.head (.sleep hphase hended) hreceive
  change t.loop = (s.loop.receive w).1 at hloop
  change t.phase = if t.loop.isEnded then .ended else .measuring (s.loop.receive w).2 at hgone
  unfold Loop.round
  rw [hloop] at hgone
  cases hstopped : (s.loop.receive w).1.isEnded with
  | true =>
      simp only [hstopped, if_true] at hgone ⊢
      exact ⟨t, hreceive, hloop, hgone⟩
  | false =>
      simp only [hstopped, Bool.false_eq_true, if_false] at hgone ⊢
      obtain ⟨u, hadapt, hloop', hgone'⟩ := exists_steps_adapt hgone a
      rw [hloop] at hloop' hgone'
      cases hpaints : (s.loop.receive w).2 || ((s.loop.receive w).1.adapt a).2 with
      | true =>
          rw [hpaints] at hgone'
          refine ⟨u.paint.go .checking, (hreceive.trans hadapt).tail (.paint hgone'), ?_, rfl⟩
          change u.loop.paint = _
          rw [hloop']
          rfl
      | false =>
          rw [hpaints] at hgone'
          exact ⟨u, hreceive.trans hadapt, hloop', hgone'⟩

end System

end StatusBoard.Board
