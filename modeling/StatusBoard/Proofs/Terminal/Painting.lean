import StatusBoard.Proofs.Terminal.Reading
import StatusBoard.Terminal.Screen
import Mathlib.Data.List.SplitBy

/-!
What a console shows after it has been sent rows of a canvas.

Sending cells paints them one after the other, whatever runs they are sent in, and a row that can
be read off in whole characters fills its columns and no others.
-/

namespace StatusBoard

open Text

namespace Terminal

/-- The color in which a role is shown. -/
def Theme.ink (theme : Theme) (tone : Tone) : Color := (theme.color tone).getD .standard

theorem Theme.ink_eq_standard {theme : Theme} (h : theme.isColored = false) (tone : Tone) :
    theme.ink tone = .standard := by
  simp [ink, color, h]

theorem Theme.getD_color {theme : Theme} {color : Color}
    (h : theme.isColored = false → color = .standard) (tone : Tone) :
    (theme.color tone).getD color = theme.ink tone := by
  cases hc : theme.isColored with
  | false => rw [h hc, ink]
  | true => simp [ink, Theme.color, hc]

/-- What the cell at a position of a row shows.  A continuation mark has the color of the
character that it continues. -/
def glyphAt (theme : Theme) (cells : List Cell) (x : Nat) : Glyph :=
  match cells[x]? with
  | none => .blank
  | some k =>
      ⟨k.ch, theme.ink (if k.isContinuation then (cells[x - 1]?.getD k).tone else k.tone)⟩

theorem glyphAt_of_length_le (theme : Theme) {cells : List Cell} {x : Nat} (h : cells.length ≤ x) :
    glyphAt theme cells x = .blank := by
  rw [glyphAt, List.getElem?_eq_none h]

theorem glyphAt_zero (theme : Theme) {k : Cell} (hk : k.isContinuation = false)
    (cells : List Cell) :
    glyphAt theme (k :: cells) 0 = ⟨k.ch, theme.ink k.tone⟩ := by
  simp [glyphAt, hk]

theorem glyphAt_one (theme : Theme) (k : Cell) {m : Cell} (hm : m.isContinuation = true)
    (cells : List Cell) :
    glyphAt theme (k :: m :: cells) 1 = ⟨Cell.continuationMark, theme.ink k.tone⟩ := by
  have hch : m.ch = Cell.continuationMark := of_decide_eq_true hm
  simp [glyphAt, hm, hch]

/-- Cells that start with a whole character look the same wherever they stand. -/
theorem glyphAt_cons (theme : Theme) (k : Cell) {cells : List Cell} (h : Cell.IsWhole cells)
    (x : Nat) : glyphAt theme (k :: cells) (x + 1) = glyphAt theme cells x := by
  cases x with
  | succ x => rfl
  | zero =>
      cases h with
      | nil => rfl
      | @narrow l rest hl _ =>
          have hmark : l.isContinuation = false := Cell.not_isContinuation_of_columns (by omega)
          simp [glyphAt, hmark]
      | @wide l m rest hl _ _ =>
          have hmark : l.isContinuation = false := Cell.not_isContinuation_of_columns (by omega)
          simp [glyphAt, hmark]

theorem glyphAt_cons_cons (theme : Theme) (k m : Cell) {cells : List Cell} (h : Cell.IsWhole cells)
    (x : Nat) : glyphAt theme (k :: m :: cells) (x + 2) = glyphAt theme cells x :=
  (show glyphAt theme (k :: m :: cells) (x + 2) = glyphAt theme (m :: cells) (x + 1) from rfl).trans
    (glyphAt_cons theme m h x)

theorem glyphAt_dropLast (theme : Theme) {cells : List Cell} {x : Nat} (h : x + 1 < cells.length) :
    glyphAt theme cells.dropLast x = glyphAt theme cells x := by
  rw [glyphAt, glyphAt, List.getElem?_dropLast, if_pos (by omega), List.getElem?_dropLast,
    if_pos (by omega)]

namespace Display

/-- Without colors, a display prints in the default color. -/
def Follows (theme : Theme) (d : Display) : Prop := theme.isColored = false → d.color = .standard

/-- Paint the character of a cell at the cursor. -/
def paint (theme : Theme) (d : Display) (k : Cell) : Display :=
  { d with color := (theme.color k.tone).getD d.color }.put k.ch

theorem x_paint (theme : Theme) (d : Display) (k : Cell) :
    (d.paint theme k).x = d.x + columns k.ch := rfl

theorem y_paint (theme : Theme) (d : Display) (k : Cell) : (d.paint theme k).y = d.y := rfl

theorem cells_paint {theme : Theme} {d : Display} (h : d.Follows theme)
    (k : Cell) (x y : Nat) :
    (d.paint theme k).cells x y =
      if y = d.y ∧ d.x ≤ x ∧ x < d.x + columns k.ch then
        ⟨if x = d.x then k.ch else Cell.continuationMark, theme.ink k.tone⟩
      else d.cells x y := by
  rw [← Theme.getD_color h k.tone]
  rfl

theorem color_paint {theme : Theme} {d : Display} (h : d.Follows theme)
    (k : Cell) : (d.paint theme k).color = theme.ink k.tone := Theme.getD_color h k.tone

/-! ## Runs of cells -/

theorem foldl_paint_of_color {theme : Theme} {tone : Tone} {d : Display}
    (hd : (theme.color tone).getD d.color = d.color) {run : List Cell}
    (hrun : ∀ k ∈ run, k.tone = tone) :
    run.foldl (paint theme) d = (run.map Cell.ch).foldl put d := by
  induction run generalizing d with
  | nil => rfl
  | cons k run ih =>
      have hk : d.paint theme k = d.put k.ch := by
        rw [paint, hrun k (by simp), hd]
      rw [List.foldl_cons, hk, ih (d := d.put k.ch) hd fun l hl => hrun l (by simp [hl])]
      rfl

/-- A run of one tone is painted cell by cell, though its color is set only once. -/
theorem execAll_runCommands {theme : Theme} {k : Cell} {run : List Cell}
    (hrun : ∀ l ∈ run, l.tone = k.tone) (d : Display) :
    d.execAll (Screen.runCommands theme (k :: run)) = (k :: run).foldl (paint theme) d := by
  have htint : d.execAll (Screen.runCommands theme (k :: run)) =
      (run.map Cell.ch).foldl put (d.paint theme k) := by
    rw [Screen.runCommands, paint, List.head?_cons, Option.bind_some]
    cases theme.color k.tone <;> rfl
  have hcolor : (theme.color k.tone).getD (d.paint theme k).color = (d.paint theme k).color := by
    change (theme.color k.tone).getD ((theme.color k.tone).getD d.color) =
      (theme.color k.tone).getD d.color
    cases theme.color k.tone <;> rfl
  rw [htint, List.foldl_cons, foldl_paint_of_color hcolor hrun]

theorem tone_eq_of_isChain {k : Cell} {run : List Cell}
    (h : List.IsChain (fun a b => decide (Cell.tone a = Cell.tone b) = true) (k :: run)) :
    ∀ l ∈ run, l.tone = k.tone := by
  induction run generalizing k with
  | nil => simp
  | cons m run ih =>
      rw [List.isChain_cons_cons, decide_eq_true_eq] at h
      intro l hl
      rcases List.mem_cons.mp hl with rfl | hl
      · exact h.1.symm
      · rw [h.1, ih h.2 l hl]

theorem execAll_runs {theme : Theme} {runs : List (List Cell)}
    (h : ∀ run ∈ runs, run ≠ [] ∧
      run.IsChain fun a b => decide (Cell.tone a = Cell.tone b) = true) (d : Display) :
    d.execAll (runs.flatMap (Screen.runCommands theme)) = runs.flatten.foldl (paint theme) d := by
  induction runs generalizing d with
  | nil => rfl
  | cons run runs ih =>
      obtain ⟨hne, hchain⟩ := h run (by simp)
      have hrest := fun r hr => h r (List.mem_cons_of_mem run hr)
      cases run with
      | nil => exact absurd rfl hne
      | cons k run =>
          rw [List.flatMap_cons, execAll_append, execAll_runCommands (tone_eq_of_isChain hchain),
            ih hrest, List.flatten_cons, List.foldl_append]

/-- Cells are painted from left to right, whatever runs they are sent in. -/
theorem execAll_cellCommands (theme : Theme) (cells : List Cell) (d : Display) :
    d.execAll (Screen.cellCommands theme cells) =
      (cells.filter fun k => !k.isContinuation).foldl (paint theme) d := by
  rw [Screen.cellCommands, execAll_runs, List.flatten_splitBy]
  intro run hrun
  exact ⟨List.ne_nil_of_mem_splitBy hrun, List.isChain_of_mem_splitBy hrun⟩

/-! ## Whole characters -/

/-- Painting whole characters fills as many columns as there are cells, and no others. -/
theorem cells_foldl_paint {theme : Theme} {cells : List Cell} (h : Cell.IsWhole cells)
    {d : Display} (hd : d.Follows theme) (x y : Nat) :
    ((cells.filter fun k => !k.isContinuation).foldl (paint theme) d).cells x y =
      if y = d.y ∧ d.x ≤ x ∧ x < d.x + cells.length then
        glyphAt theme cells (x - d.x)
      else d.cells x y := by
  induction h generalizing d with
  | nil =>
      rw [if_neg (by simp)]
      rfl
  | @narrow k rest hk hrest ih =>
      have hmark : k.isContinuation = false := Cell.not_isContinuation_of_columns (by omega)
      have hnext := ih (d := d.paint theme k)
        fun hc => by rw [color_paint hd, Theme.ink_eq_standard hc]
      rw [List.filter_cons_of_pos (by simp [hmark]), List.foldl_cons, hnext, x_paint, y_paint,
        cells_paint hd, hk, List.length_cons]
      by_cases hin : y = d.y ∧ d.x ≤ x ∧ x < d.x + (rest.length + 1)
      · rw [if_pos hin]
        by_cases hfirst : x < d.x + 1
        · obtain rfl : x = d.x := by omega
          rw [if_neg (by omega), if_pos ⟨hin.1, hin.2.1, hfirst⟩, if_pos rfl, Nat.sub_self,
            glyphAt_zero theme hmark]
        · rw [if_pos (by omega), show x - d.x = x - (d.x + 1) + 1 by omega,
            glyphAt_cons theme k hrest]
      · rw [if_neg hin, if_neg (by omega), if_neg (by omega)]
  | @wide k m rest hk hm hrest ih =>
      have hmark : k.isContinuation = false := Cell.not_isContinuation_of_columns (by omega)
      have hnext := ih (d := d.paint theme k)
        fun hc => by rw [color_paint hd, Theme.ink_eq_standard hc]
      rw [List.filter_cons_of_pos (by simp [hmark]), List.filter_cons_of_neg (by simp [hm]),
        List.foldl_cons, hnext, x_paint, y_paint, cells_paint hd, hk, List.length_cons,
        List.length_cons]
      by_cases hin : y = d.y ∧ d.x ≤ x ∧ x < d.x + (rest.length + 1 + 1)
      · rw [if_pos hin]
        by_cases hboth : x < d.x + 2
        · rw [if_neg (by omega), if_pos ⟨hin.1, hin.2.1, hboth⟩]
          by_cases hfirst : x = d.x
          · rw [if_pos hfirst, hfirst, Nat.sub_self, glyphAt_zero theme hmark]
          · rw [if_neg hfirst, show x - d.x = 1 by omega, glyphAt_one theme k hm]
        · rw [if_pos (by omega), show x - d.x = x - (d.x + 2) + 2 by omega,
            glyphAt_cons_cons theme k m hrest]
      · rw [if_neg hin, if_neg (by omega), if_neg (by omega)]

end Display

/-! ## Rows -/

/-- Without its last cell, a row of whole characters prints one character less or all of them: the
last cell may be the mark right of the last character. -/
theorem isWhole_dropLast {cells : List Cell} (h : Cell.IsWhole cells) :
    Cell.IsWhole cells.dropLast ∨
      cells.dropLast.filter (fun k => !k.isContinuation) =
        cells.filter fun k => !k.isContinuation := by
  induction h with
  | nil => exact .inl .nil
  | @narrow k rest hk _ ih =>
      cases rest with
      | nil => exact .inl .nil
      | cons l rest =>
          rw [List.dropLast_cons_cons]
          rcases ih with hwhole | hfilter
          · exact .inl (.narrow hk hwhole)
          · right
            have hmark : k.isContinuation = false := Cell.not_isContinuation_of_columns (by omega)
            simp [hmark, hfilter]
  | @wide k m rest hk hm _ ih =>
      have hmark : k.isContinuation = false := Cell.not_isContinuation_of_columns (by omega)
      cases rest with
      | nil =>
          right
          simp [hmark, hm]
      | cons l rest =>
          rw [List.dropLast_cons_cons, List.dropLast_cons_cons]
          rcases ih with hwhole | hfilter
          · exact .inl (.wide hk hm hwhole)
          · right
            simp [hmark, hm, hfilter]

end Terminal

namespace Canvas

/-- What a cell of a canvas is to look like; off the canvas there is nothing to see. -/
def glyph (theme : Terminal.Theme) (c : Canvas) (x y : Nat) : Terminal.Glyph :=
  Terminal.glyphAt theme (c.row y) x

def IsCorner (c : Canvas) (x y : Nat) : Prop := x + 1 = c.width ∧ y + 1 = c.height

theorem glyph_congr (theme : Terminal.Theme) {p c : Canvas} {y : Nat} (h : p.row y = c.row y)
    (x : Nat) : p.glyph theme x y = c.glyph theme x y := by
  rw [glyph, glyph, h]

instance (c : Canvas) (x y : Nat) : Decidable (c.IsCorner x y) :=
  inferInstanceAs (Decidable (_ ∧ _))

theorem glyph_off {theme : Terminal.Theme} {c : Canvas} {x y : Nat}
    (h : ¬ (x < c.width ∧ y < c.height)) : c.glyph theme x y = .blank := by
  by_cases hy : y < c.height
  · have hlength := length_row hy
    exact Terminal.glyphAt_of_length_le theme (by omega)
  · rw [glyph, row, if_neg hy]
    rfl

end Canvas

namespace Terminal

namespace Display

/-- A row of a display shows a row of a canvas; the last cell of the last row may show anything.
-/
def Shows (theme : Theme) (d : Display) (c : Canvas) (y : Nat) : Prop :=
  ∀ x < c.width, ¬ c.IsCorner x y → d.cells x y = c.glyph theme x y

/-- Painting a row of a canvas fills all of its columns, or all but the last if it is the last
row. -/
theorem cells_rowCommands {theme : Theme} {c : Canvas} (hc : c.WellFormed) {y : Nat}
    (hy : y < c.height) {d : Display} (hd : d.Follows theme) :
    ∃ n, (n = c.width ∨ n + 1 = c.width ∧ y + 1 = c.height) ∧ ∀ x' y',
      (d.execAll (Screen.rowCommands theme c y)).cells x' y' =
        if y' = y ∧ x' < n then c.glyph theme x' y else d.cells x' y' := by
  have hwhole := hc.isWhole_row hy
  have hlength := Canvas.length_row hy
  have hfull : ∀ x' y', (((c.row y).filter fun k => !k.isContinuation).foldl (paint theme)
      (d.exec (.moveTo 0 y))).cells x' y' =
        if y' = y ∧ x' < c.width then c.glyph theme x' y else d.cells x' y' := by
    intro x' y'
    rw [cells_foldl_paint hwhole (d := d.exec (.moveTo 0 y)) hd, hlength]
    simp [Canvas.glyph]
  rw [Screen.rowCommands, execAll_cons, execAll_cellCommands, Screen.sentCells]
  by_cases hlast : y + 1 = c.height
  · rw [if_pos hlast]
    rcases isWhole_dropLast hwhole with hwhole' | hfilter
    · by_cases hwidth : c.width = 0
      · refine ⟨c.width, .inl rfl, ?_⟩
        rw [List.length_eq_zero_iff.mp (hlength.trans hwidth)] at hfull ⊢
        exact hfull
      · refine ⟨c.width - 1, .inr ⟨by omega, hlast⟩, ?_⟩
        intro x' y'
        rw [cells_foldl_paint hwhole' (d := d.exec (.moveTo 0 y)) hd,
          List.length_dropLast, hlength, x_exec_moveTo, Nat.sub_zero]
        by_cases hx : x' < c.width - 1
        · rw [glyphAt_dropLast theme (by omega)]
          simp [Canvas.glyph]
        · simp [hx]
    · rw [hfilter]
      exact ⟨c.width, .inl rfl, hfull⟩
  · rw [if_neg hlast]
    exact ⟨c.width, .inl rfl, hfull⟩

/-- Sending a row of a well-formed canvas shows this row. -/
theorem shows_rowCommands {theme : Theme} {c : Canvas} (hc : c.WellFormed) {y : Nat}
    (hy : y < c.height) {d : Display} (hd : d.Follows theme) :
    (d.execAll (Screen.rowCommands theme c y)).Shows theme c y := by
  obtain ⟨n, hn, hcells⟩ := cells_rowCommands hc hy hd
  intro x hx hcorner
  rw [Canvas.IsCorner] at hcorner
  rw [hcells, if_pos ⟨rfl, by omega⟩]

theorem cells_rowCommands_of_ne {theme : Theme} {c : Canvas} (hc : c.WellFormed) {y : Nat}
    (hy : y < c.height) {d : Display} (hd : d.Follows theme) {x' y' : Nat}
    (h : ¬ (y' = y ∧ x' < c.width)) :
    (d.execAll (Screen.rowCommands theme c y)).cells x' y' = d.cells x' y' := by
  obtain ⟨n, hn, hcells⟩ := cells_rowCommands hc hy hd
  rw [hcells, if_neg]
  rintro ⟨rfl, hx⟩
  exact h ⟨rfl, by omega⟩

end Display

end Terminal

end StatusBoard
