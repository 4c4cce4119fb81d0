import StatusBoard.Compose

/-!
Drawing keeps the width and the height of a canvas, whatever is drawn and wherever.
-/

namespace StatusBoard

namespace Canvas

/-- The width and the height of a canvas. -/
def extent (c : Canvas) : Nat × Nat := (c.width, c.height)

@[simp] theorem extent_set (c : Canvas) (x y : Nat) (ch : Char) (t : Tone) :
    (c.set x y ch t).extent = c.extent := by
  simp [extent]

@[simp] theorem extent_setWide (c : Canvas) (x y : Nat) (ch : Char) (t : Tone) :
    (c.setWide x y ch t).extent = c.extent := by
  simp [extent, setWide]

theorem extent_foldl {α : Type} {f : Canvas → α → Canvas}
    (hf : ∀ c a, (f c a).extent = c.extent) (as : List α) (c : Canvas) :
    (as.foldl f c).extent = c.extent := by
  induction as generalizing c with
  | nil => rfl
  | cons a as ih => exact (ih (f c a)).trans (hf c a)

@[simp] theorem extent_putChars (c : Canvas) (col y : Nat) (t : Tone) (limit : Nat)
    (text : List Char) : (c.putChars col y t limit text).1.extent = c.extent := by
  induction text generalizing c col with
  | nil => rfl
  | cons ch rest ih =>
      rw [putChars]
      split
      · exact ih c col
      · exact ih c col
      · split
        · rfl
        · split
          · rw [ih, extent_setWide]
          · rw [ih, extent_set]

@[simp] theorem extent_putText (c : Canvas) (x y : Nat) (text : String) (t : Tone) (limit : Nat) :
    (c.putText x y text t limit).1.extent = c.extent := extent_putChars ..

@[simp] theorem extent_setRun (c : Canvas) (start stop y : Nat) (ch : Char) (t : Tone) :
    (c.setRun start stop y ch t).extent = c.extent :=
  extent_foldl (fun c x => extent_set c x y ch t) _ c

@[simp] theorem extent_fill (c : Canvas) (r : Rect) (ch : Char) (t : Tone) :
    (c.fill r ch t).extent = c.extent :=
  extent_foldl (fun d y => extent_setRun d r.x (min r.right c.width) y ch t) _ c

@[simp] theorem extent_drawBorder (c : Canvas) (r : Rect) :
    (c.drawBorder r).extent = c.extent := by
  simp only [drawBorder, extent_set]
  rw [extent_foldl (by simp), extent_foldl (by simp)]

@[simp] theorem extent_drawBox (c : Canvas) (r : Rect) (title : Option String) :
    (c.drawBox r title).extent = c.extent := by
  unfold drawBox
  split
  · rfl
  · cases title with
    | none => exact extent_drawBorder c r
    | some title =>
        simp only
        split
        · exact extent_drawBorder c r
        · rw [drawTitle, extent_putText, extent_drawBorder]

@[simp] theorem extent_drawSeparator (c : Canvas) (r : Rect) (y : Nat) :
    (c.drawSeparator r y).extent = c.extent := by
  unfold drawSeparator
  split
  · rfl
  · simp

end Canvas

namespace Frame

open Canvas

theorem extent_drawSpans (c : Canvas) (area : Rect) (col y : Nat) (spans : List Span) :
    (drawSpans c area col y spans).extent = c.extent := by
  induction spans generalizing c col with
  | nil => rfl
  | cons s rest ih => exact (ih _ _).trans (extent_putText ..)

theorem extent_place (area : Rect) (p : Progress) (e : Entry) :
    (p.place area e).canvas.extent = p.canvas.extent := by
  unfold Progress.place
  split
  · simp only
    split
    · rfl
    · exact extent_drawSpans ..
  · simp only
    split
    · rfl
    · exact extent_drawSpans ..

theorem extent_drawLogRows (c : Canvas) (area : Rect) (y : Nat) (ls : List Log.Line) :
    (drawLogRows c area y ls).extent = c.extent := by
  induction ls generalizing c y with
  | nil => rfl
  | cons l rest ih => exact (ih _ _).trans (extent_putText ..)

theorem extent_drawLogPane (c : Canvas) (area : Rect) (log : Log.Body) :
    (drawLogPane c area log).extent = c.extent := by
  unfold drawLogPane
  simp only
  split
  · exact extent_drawBox ..
  · rw [extent_drawLogRows, extent_drawBox]

theorem extent_render (f : Frame) (c : Canvas) (area : Rect) (log : Log.Body) :
    (f.render c area log).extent = c.extent := by
  have hplaced : ∀ (es : List Entry) (p : Progress),
      (es.foldl (Progress.place area) p).canvas.extent = p.canvas.extent := by
    intro es
    induction es with
    | nil => exact fun p => rfl
    | cons e es ih => exact fun p => (ih _).trans (extent_place area p e)
  unfold render
  split
  · rfl
  · simp only
    split
    · rw [extent_drawLogPane, hplaced]
    · exact hplaced _ _

end Frame

namespace Modal

theorem extent_drawRows (c : Canvas) (area : Rect) (y : Nat) (rows : List String) :
    (drawRows c area y rows).extent = c.extent := by
  induction rows generalizing c y with
  | nil => rfl
  | cons row rest ih => exact (ih _ _).trans (Canvas.extent_putText ..)

theorem extent_render (m : Modal) (c : Canvas) (screen : Rect) :
    (m.render c screen).extent = c.extent := by
  unfold render
  simp only
  split
  · rfl
  · split
    · simp [extent_drawRows]
    · simp [extent_drawRows]

end Modal

/-- A picture has the size that it is composed for. -/
theorem extent_compose (frame : Frame) (log : Log.Body) (pages : Pages) (width height : Nat) :
    (compose frame log pages width height).extent = (width, height) := by
  refine (Canvas.extent_foldl ?_ pages.entries (Canvas.blank width height)).trans rfl
  rintro c ⟨name, page⟩
  cases page with
  | frame => exact Frame.extent_render frame c c.area log
  | modal m => exact m.extent_render c c.area

end StatusBoard
