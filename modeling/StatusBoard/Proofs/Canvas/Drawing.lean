import StatusBoard.Proofs.Canvas.Overlap

/-!
Every drawing operation writes characters one at a time.

`Draws p c d` says that `d` comes from `c` by writing characters that satisfy `p`, each whole.
What a single write keeps is therefore kept by text, fillings, boxes and separators alike.
-/

namespace StatusBoard

/-- Every character of a text that takes a column satisfies a property. -/
def Text.Allows (p : Char → Prop) (text : List Char) : Prop :=
  ∀ ch ∈ text, 0 < columns ch → p ch

namespace Canvas

open Text

/-- One canvas comes from another by writing characters that satisfy a property. -/
inductive Draws (p : Char → Prop) (c : Canvas) : Canvas → Prop
  | refl : Draws p c c
  | set {d : Canvas} (x y : Nat) {ch : Char} (t : Tone) :
      Draws p c d → 0 < columns ch → columns ch ≠ 2 → p ch → Draws p c (d.set x y ch t)
  | setWide {d : Canvas} {x : Nat} (y : Nat) {ch : Char} (t : Tone) :
      Draws p c d → columns ch = 2 → p ch → x + 1 < d.width → Draws p c (d.setWide x y ch t)

@[simp] theorem width_setWide (c : Canvas) (x y : Nat) (ch : Char) (t : Tone) :
    (c.setWide x y ch t).width = c.width := by
  simp [Canvas.setWide]

@[simp] theorem height_setWide (c : Canvas) (x y : Nat) (ch : Char) (t : Tone) :
    (c.setWide x y ch t).height = c.height := by
  simp [Canvas.setWide]

/-- Paint one character that has a column. -/
def setChar (c : Canvas) (x y : Nat) (ch : Char) (t : Tone) : Canvas :=
  if columns ch = 2 then c.setWide x y ch t else c.set x y ch t

@[simp] theorem width_setChar (c : Canvas) (x y : Nat) (ch : Char) (t : Tone) :
    (c.setChar x y ch t).width = c.width := by
  unfold setChar
  split <;> simp

@[simp] theorem height_setChar (c : Canvas) (x y : Nat) (ch : Char) (t : Tone) :
    (c.setChar x y ch t).height = c.height := by
  unfold setChar
  split <;> simp

theorem putChars_cons (c : Canvas) (col y : Nat) (t : Tone) (limit : Nat) (ch : Char)
    (rest : List Char) :
    c.putChars col y t limit (ch :: rest) =
      if columns ch = 0 then c.putChars col y t limit rest
      else if limit < addCoord col (columns ch) then (c, col)
      else (c.setChar col y ch t).putChars (col + columns ch) y t limit rest := by
  rw [putChars]
  split
  · rename_i hwidth
    simp [columns, hwidth]
  · rename_i hwidth
    simp [columns, hwidth]
  · rename_i w hne hwidth
    have hcolumns : columns ch = w := by simp [columns, hwidth]
    rw [hcolumns, if_neg hne, setChar, hcolumns]
    split
    · rfl
    · split <;> rfl

theorem putText_eq (c : Canvas) (x y : Nat) (text : String) (t : Tone) (limit : Nat) :
    c.putText x y text t limit =
      ((c.putChars x y t (min limit c.width) text.toList).1,
        (c.putChars x y t (min limit c.width) text.toList).2 - x) := rfl

theorem allCells_write {q : Char → Prop} {c : Canvas} (h : c.AllCells q) (x y : Nat) {k : Cell}
    (hk : k.isContinuation = false → q k.ch) : (c.write x y k).AllCells q := by
  intro x' y' l hl hmark
  rw [cell?_write] at hl
  split at hl
  · rw [Option.some.injEq] at hl
    subst hl
    exact hk hmark
  · exact h x' y' l hl hmark

theorem allCells_clearOverlap {q : Char → Prop} {c : Canvas} (h : c.AllCells q) (hq : q ' ')
    (x y : Nat) : (c.clearOverlap x y).AllCells q := by
  rcases c.clearOverlap_cases x y with ⟨-, -, he⟩ | ⟨-, -, k, -, he⟩ | ⟨-, -, k, -, he⟩ | ⟨-, -, he⟩
  · rw [he]
    exact h
  · rw [he]
    exact allCells_write h _ _ fun _ => hq
  · rw [he]
    exact allCells_write h _ _ fun _ => hq
  · rw [he]
    exact h

namespace Draws

variable {p : Char → Prop} {c d : Canvas}

theorem width_eq (h : Draws p c d) : d.width = c.width := by
  induction h with
  | refl => rfl
  | set x y t _ _ _ _ ih => rw [width_set, ih]
  | setWide y t _ _ _ _ ih => rw [width_setWide, ih]

theorem height_eq (h : Draws p c d) : d.height = c.height := by
  induction h with
  | refl => rfl
  | set x y t _ _ _ _ ih => rw [height_set, ih]
  | setWide y t _ _ _ _ ih => rw [height_setWide, ih]

theorem aligned (h : Draws p c d) (hc : c.Aligned) : d.Aligned := by
  induction h with
  | refl => exact hc
  | set x y t _ h0 h2 _ ih => exact ih.set x y t h0 h2
  | setWide y t _ h2 _ hx ih => exact ih.setWide y t h2 hx

/-- What holds of the blank and of every character written holds of every character on the canvas.
-/
theorem allCells {q : Char → Prop} (h : Draws p c d) (hc : c.AllCells q) (hspace : q ' ')
    (hp : ∀ ch, p ch → 0 < columns ch → q ch) : d.AllCells q := by
  induction h with
  | refl => exact hc
  | set x y t _ h0 _ hch ih =>
      exact allCells_write (allCells_clearOverlap ih hspace x y) _ _ fun _ => hp _ hch h0
  | setWide y t _ h2 hch _ ih =>
      refine allCells_write (allCells_write ?_ _ _ fun _ => hp _ hch (by simp only; omega)) _ _ ?_
      · exact allCells_clearOverlap (allCells_clearOverlap ih hspace _ _) hspace _ _
      · intro hmark
        simp [Cell.isContinuation] at hmark

theorem foldl {α : Type} {f : Canvas → α → Canvas} (h : Draws p c d)
    (hf : ∀ e a, Draws p c e → Draws p c (f e a)) (as : List α) : Draws p c (as.foldl f d) := by
  induction as generalizing d with
  | nil => exact h
  | cons a as ih => exact ih (hf d a h)

end Draws

/-! ## Operations -/

/-- The characters that boxes, bars and fillings are made of. -/
def furniture : List Char := [' ', '─', '│', '┌', '┐', '└', '┘', '├', '┤', '█', '░']

theorem columns_furniture : ∀ ch ∈ furniture, columns ch = 1 := by
  have hall : (furniture.all fun ch => columns ch = 1) = true := by decide +kernel
  simpa using hall

namespace Draws

variable {p : Char → Prop} {c d : Canvas}

theorem set_narrow (h : Draws p c d) (x y : Nat) {ch : Char} (t : Tone) (h1 : columns ch = 1)
    (hch : p ch) : Draws p c (d.set x y ch t) :=
  h.set x y t (by omega) (by omega) hch

theorem set_furniture (h : Draws p c d) (hp : ∀ ch ∈ furniture, p ch) (x y : Nat) {ch : Char}
    (t : Tone) (hch : ch ∈ furniture) : Draws p c (d.set x y ch t) :=
  h.set_narrow x y t (columns_furniture ch hch) (hp ch hch)

theorem setChar (h : Draws p c d) {x : Nat} (y : Nat) {ch : Char} (t : Tone)
    (hpos : 0 < columns ch) (hch : p ch) (hx : x + columns ch ≤ d.width) :
    Draws p c (d.setChar x y ch t) := by
  rw [Canvas.setChar]
  split
  · rename_i htwo
    exact h.setWide y t htwo hch (by omega)
  · rename_i htwo
    exact h.set x y t hpos htwo hch

theorem putChars (h : Draws p c d) (hc : c.width < maxCoord) {text : List Char}
    (htext : Allows p text) (col y : Nat) (t : Tone) {limit : Nat} (hlimit : limit ≤ c.width) :
    Draws p c (d.putChars col y t limit text).1 := by
  induction text generalizing d col with
  | nil => exact h
  | cons ch rest ih =>
      have hrest : Allows p rest := fun ch' hch' => htext ch' (List.mem_cons_of_mem _ hch')
      rw [putChars_cons]
      split
      · exact ih h hrest col
      · rename_i hzero
        have hpos : 0 < columns ch := Nat.pos_of_ne_zero hzero
        split
        · exact h
        · rename_i hfits
          -- below the largest coordinate the sum is exact, so the whole character is on the canvas
          have hsum : col + columns ch ≤ limit := by
            unfold addCoord at hfits
            omega
          apply ih _ hrest
          apply h.setChar y t hpos (htext ch List.mem_cons_self hpos)
          rw [h.width_eq]
          exact Nat.le_trans hsum hlimit

theorem putText (h : Draws p c d) (hc : c.width < maxCoord) {text : String}
    (htext : Allows p text.toList) (x y : Nat) (t : Tone) (limit : Nat) :
    Draws p c (d.putText x y text t limit).1 :=
  h.putChars hc htext x y t (by rw [h.width_eq]; exact Nat.min_le_right _ _)

theorem setRun (h : Draws p c d) (start stop y : Nat) {ch : Char} (t : Tone)
    (h1 : columns ch = 1) (hch : p ch) : Draws p c (d.setRun start stop y ch t) :=
  h.foldl (fun _ x he => he.set_narrow x y t h1 hch) _

theorem fill (h : Draws p c d) (r : Rect) {ch : Char} (t : Tone) (h1 : columns ch = 1)
    (hch : p ch) : Draws p c (d.fill r ch t) :=
  h.foldl (fun _ y he => he.setRun _ _ y t h1 hch) _

theorem drawBorder (h : Draws p c d) (hp : ∀ ch ∈ furniture, p ch) (r : Rect) :
    Draws p c (d.drawBorder r) := by
  have hset : ∀ {e : Canvas} (x y : Nat) {ch : Char}, ch ∈ furniture → Draws p c e →
      Draws p c (e.set x y ch .border) := fun x y _ hch he => he.set_furniture hp x y _ hch
  refine hset _ _ (by decide) (hset _ _ (by decide) ?_)
  refine hset _ _ (by decide) (hset _ _ (by decide) ?_)
  refine foldl (foldl h ?_ _) ?_ _
  · exact fun _ _ he => hset _ _ (by decide) (hset _ _ (by decide) he)
  · exact fun _ _ he => hset _ _ (by decide) (hset _ _ (by decide) he)

theorem drawBox (h : Draws p c d) (hc : c.width < maxCoord) (hp : ∀ ch ∈ furniture, p ch)
    (r : Rect) {title : Option String} (htitle : ∀ t ∈ title, Allows p t.toList) :
    Draws p c (d.drawBox r title) := by
  unfold Canvas.drawBox
  split
  · exact h
  · split
    · exact h.drawBorder hp r
    · rename_i t
      split
      · exact h.drawBorder hp r
      · exact (h.drawBorder hp r).putText hc (htitle t rfl) _ _ _ _

theorem drawSeparator (h : Draws p c d) (hp : ∀ ch ∈ furniture, p ch) (r : Rect) (y : Nat) :
    Draws p c (d.drawSeparator r y) := by
  unfold Canvas.drawSeparator
  split
  · exact h
  · refine set_furniture (setRun (h.set_furniture hp _ _ _ (by decide)) _ _ _ _ ?_ ?_) hp _ _ _
      (by decide)
    · exact columns_furniture _ (by decide)
    · exact hp _ (by decide)

end Draws

theorem allCells_blank (q : Char → Prop) (hq : q ' ') (w h : Nat) : (blank w h).AllCells q := by
  intro x y k hk _
  obtain ⟨hx, hy⟩ : x < w ∧ y < h := lt_of_cell? hk
  rw [cell?_blank hx hy, Option.some.injEq] at hk
  rw [← hk]
  exact hq

/-- A drawn canvas is well formed exactly if none of its characters has three columns. -/
theorem Draws.wellFormed_iff {w h : Nat} (hd : Draws (fun _ => True) (blank w h) d) :
    d.WellFormed ↔ d.AllCells (· ≠ beyyal) := by
  have hpos : d.AllCells fun ch => 0 < columns ch :=
    hd.allCells (allCells_blank _ (by simp [columns_space]) w h) (by simp [columns_space])
      fun _ _ hpos => hpos
  constructor
  · intro hwf x y k hk hmark hb
    have h3 := columns_eq_three_iff.mpr hb
    have hwide : k.isWide = false := by simp [Cell.isWide, h3]
    have := hwf.narrow x y k hk hmark hwide
    omega
  · intro hb
    refine (hd.aligned (aligned_blank w h)).wellFormed ?_
    intro x y k hk hmark
    have h1 := hpos x y k hk hmark
    have h3 : columns k.ch ≠ 3 := fun h3 => hb x y k hk hmark (columns_eq_three_iff.mp h3)
    have := columns_le k.ch
    omega

theorem Draws.allCells_ne_beyyal {w h : Nat} (hd : Draws (· ≠ beyyal) (blank w h) d) :
    d.AllCells (· ≠ beyyal) :=
  hd.allCells (allCells_blank _ (by decide) w h) (by decide) fun _ hch _ => hch

theorem ne_beyyal_of_columns {ch : Char} (h : columns ch = 1) : ch ≠ beyyal := by
  intro hch
  rw [columns_eq_three_iff.mpr hch] at h
  omega

/-- One drawing operation. -/
inductive Stroke
  | text (x y : Nat) (text : String) (tone : Tone) (limit : Nat)
  | cell (x y : Nat) (ch : Char) (tone : Tone)
  | fill (r : Rect) (ch : Char) (tone : Tone)
  | box (r : Rect) (title : Option String)
  | separator (r : Rect) (y : Nat)

namespace Stroke

def apply (c : Canvas) : Stroke → Canvas
  | text x y t tone limit => (c.putText x y t tone limit).1
  | cell x y ch tone => c.set x y ch tone
  | fill r ch tone => c.fill r ch tone
  | box r title => c.drawBox r title
  | separator r y => c.drawSeparator r y

/-- Single characters have one column, and the edges of boxes lie below the largest coordinate. -/
def IsRegular : Stroke → Prop
  | text .. => True
  | cell _ _ ch _ | fill _ ch _ => columns ch = 1
  | box r _ | separator r _ => r.x + r.width < maxCoord ∧ r.y + r.height < maxCoord

def chars : Stroke → List Char
  | text _ _ t _ _ => t.toList
  | box _ (some title) => title.toList
  | _ => []

theorem draws_apply {p : Char → Prop} {c d : Canvas} (h : Draws p c d) (hc : c.width < maxCoord)
    {s : Stroke} (hs : s.IsRegular) (hnarrow : ∀ ch, columns ch = 1 → p ch)
    (htext : Allows p s.chars) : Draws p c (apply d s) := by
  have hp : ∀ ch ∈ furniture, p ch := fun ch hch => hnarrow ch (columns_furniture ch hch)
  cases s with
  | text x y t tone limit => exact h.putText hc htext x y tone limit
  | cell x y ch tone => exact h.set_narrow x y tone hs (hnarrow ch hs)
  | fill r ch tone => exact h.fill r tone hs (hnarrow ch hs)
  | box r title =>
      refine h.drawBox hc hp r ?_
      rintro t ht
      cases title with
      | none => simp at ht
      | some title =>
          obtain rfl := Option.some.inj ht
          exact htext
  | separator r y => exact h.drawSeparator hp r y

/-- A picture drawn from the blank canvas, one operation after the other. -/
def picture (width height : Nat) (strokes : List Stroke) : Canvas :=
  strokes.foldl apply (blank width height)

theorem draws_picture {p : Char → Prop} {w : Nat} (hw : w < maxCoord) (h : Nat)
    {strokes : List Stroke} (hs : ∀ s ∈ strokes, s.IsRegular)
    (hnarrow : ∀ ch, columns ch = 1 → p ch) (htext : ∀ s ∈ strokes, Allows p s.chars) :
    Draws p (blank w h) (picture w h strokes) := by
  suffices hgen : ∀ d, Draws p (blank w h) d → Draws p (blank w h) (strokes.foldl apply d) from
    hgen _ .refl
  induction strokes with
  | nil => exact fun d hd => hd
  | cons s strokes ih =>
      intro d hd
      refine ih (fun s' hs' => hs s' (List.mem_cons_of_mem _ hs'))
        (fun s' hs' => htext s' (List.mem_cons_of_mem _ hs')) _ ?_
      exact draws_apply hd hw (hs s List.mem_cons_self) hnarrow (htext s List.mem_cons_self)

theorem wellFormed_picture {w : Nat} (hw : w < maxCoord) (h : Nat) {strokes : List Stroke}
    (hs : ∀ s ∈ strokes, s.IsRegular) (hfree : ∀ s ∈ strokes, beyyal ∉ s.chars) :
    (picture w h strokes).WellFormed := by
  have hd : Draws (fun _ => True) (blank w h) (picture w h strokes) :=
    draws_picture hw h hs (fun _ _ => trivial) fun _ _ _ _ _ => trivial
  refine hd.wellFormed_iff.mpr ?_
  refine (draws_picture hw h hs (fun _ => ne_beyyal_of_columns) ?_).allCells_ne_beyyal
  rintro s hmem ch hch - rfl
  exact hfree s hmem hch

end Stroke

end Canvas

end StatusBoard
