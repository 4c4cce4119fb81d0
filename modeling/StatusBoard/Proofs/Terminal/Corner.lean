import StatusBoard.Proofs.Terminal.Control
import StatusBoard.Proofs.Text.Measuring

/-!
The bottom-right cell, which scrolls some consoles when it is written.

A draw leaves out the last cell of the last row.  That cell may be the second half of a character
that starts in the cell before it, and then the character is printed over the corner all the same.
A character of three columns, which has one cell, moves what is printed after it to the right.
-/

namespace StatusBoard

open Text

/-! ## Rows -/

namespace Cell

/-- Marks stand right of characters of two columns and nowhere else, the ends of the row apart. -/
def ArePaired (cells : List Cell) : Prop := cells.IsChain fun a b => b.isContinuation = a.isWide

theorem printedColumns_cons (k : Cell) (cells : List Cell) :
    printedColumns (k :: cells) =
      (if k.isContinuation then 0 else columns k.ch) + printedColumns cells := by
  rw [printedColumns, List.filter_cons]
  cases k.isContinuation
  · exact List.sum_cons
  · exact (Nat.zero_add _).symm

theorem columns_balance {k : Cell} (hpos : k.isContinuation = false → 0 < columns k.ch) :
    (if k.isContinuation then 0 else columns k.ch) + k.isContinuation.toNat =
      1 + k.isWide.toNat + 2 * if k.ch = beyyal then 1 else 0 := by
  have hwide : k.isWide = decide (columns k.ch = 2) := rfl
  simp only [hwide, ← columns_eq_three_iff]
  cases hmark : k.isContinuation with
  | true =>
      rw [columns_of_isContinuation hmark]
      rfl
  | false =>
      have hle := columns_le k.ch
      have hpos := hpos hmark
      obtain h | h | h : columns k.ch = 1 ∨ columns k.ch = 2 ∨ columns k.ch = 3 := by omega
      all_goals
        rw [h]
        rfl

/-- Cells print a column each.  A mark at the front has been printed before, a mark that is missing
at the end is printed as well, and a character of three columns prints two more. -/
theorem printedColumns_of_arePaired {cells : List Cell} (h : ArePaired cells)
    (hpos : ∀ k ∈ cells, k.isContinuation = false → 0 < columns k.ch) :
    printedColumns cells + (cells.head?.any isContinuation).toNat =
      cells.length + (cells.getLast?.any isWide).toNat + 2 * cells.countP fun k => k.ch = beyyal := by
  induction cells with
  | nil => rfl
  | cons k rest ih =>
      have hk := columns_balance (hpos k List.mem_cons_self)
      rw [printedColumns_cons, List.length_cons, List.countP_cons, List.head?_cons, Option.any_some]
      simp only [decide_eq_true_eq]
      cases rest with
      | nil =>
          have hnil : printedColumns [] = 0 := rfl
          rw [List.getLast?_singleton, Option.any_some, List.countP_nil, List.length_nil, hnil]
          omega
      | cons next rest =>
          obtain ⟨hnext, hrest⟩ := List.isChain_cons_cons.mp h
          have hsum := ih hrest fun l hl => hpos l (List.mem_cons_of_mem k hl)
          rw [List.head?_cons, Option.any_some, hnext] at hsum
          rw [List.getLast?_cons_cons]
          omega

end Cell

namespace Canvas

variable {c : Canvas} {y : Nat}

theorem Aligned.arePaired_row (h : c.Aligned) (hy : y < c.height) : Cell.ArePaired (c.row y) := by
  refine List.isChain_iff_getElem.mpr fun x hx => ?_
  have hleft : c.cell? x y = some (c.row y)[x] := by
    rw [← getElem?_row hy, List.getElem?_eq_getElem]
  have hright : c.cell? (x + 1) y = some (c.row y)[x + 1] := by
    rw [← getElem?_row hy, List.getElem?_eq_getElem]
  have hboundary := h (x + 1) y
  rwa [isWideBefore_succ, isMarkAt, isWideAt, hleft, hright] at hboundary

/-- The columns that a row prints without its last cell. -/
theorem printedColumns_dropLast (h : c.Aligned) (hvisible : c.IsVisible) (hy : y < c.height) :
    Cell.printedColumns (c.row y).dropLast =
      c.width - 1 + (c.isMarkAt (c.width - 1) y).toNat +
        2 * (c.row y).dropLast.countP fun k => k.ch = beyyal := by
  have hlength := length_row hy
  have hpaired : Cell.ArePaired (c.row y).dropLast := List.IsChain.dropLast (h.arePaired_row hy)
  have hsum := Cell.printedColumns_of_arePaired hpaired fun k hk hmark =>
    hvisible.of_mem_row ((List.dropLast_sublist _).mem hk) hmark
  have hfirst : c.isMarkAt 0 y = false := h 0 y
  have hhead : (c.row y).dropLast.head?.any Cell.isContinuation = false := by
    rw [List.head?_eq_getElem?, List.getElem?_dropLast, getElem?_row hy]
    split
    · exact hfirst
    · rfl
  have hlast : (c.row y).dropLast.getLast?.any Cell.isWide = c.isMarkAt (c.width - 1) y := by
    rw [List.getLast?_eq_getElem?, List.getElem?_dropLast, getElem?_row hy, List.length_dropLast,
      hlength]
    obtain hnarrow | hwidth : c.width - 1 = 0 ∨ c.width - 1 = c.width - 1 - 1 + 1 := by omega
    · rw [hnarrow, hfirst]
      rfl
    · rw [if_pos (by omega), hwidth, h, isWideBefore_succ]
      rfl
  rw [hhead, hlast, List.length_dropLast, hlength] at hsum
  exact hsum

theorem row_of_height_le {c : Canvas} {y : Nat} (h : c.height ≤ y) : c.row y = [] :=
  if_neg (Nat.not_lt.mpr h)

theorem WellFormed.isVisible {c : Canvas} (h : c.WellFormed) : c.IsVisible := by
  intro x y k hk hmark
  have hmem : k ∈ c.row y := List.mem_of_getElem? ((getElem?_row (lt_of_cell? hk).2).trans hk)
  exact h.columns_pos hmem hmark

theorem WellFormed.ne_beyyal {c : Canvas} (h : c.WellFormed) {y : Nat} {k : Cell}
    (hk : k ∈ c.row y) : k.ch ≠ beyyal := by
  obtain ⟨x, hcell⟩ := exists_cell?_of_mem_row hk
  intro hch
  have hcolumns : columns k.ch = 3 := columns_eq_three_iff.mpr hch
  have hmark : k.isContinuation = false := Cell.not_isContinuation_of_columns (by omega)
  have hwide : k.isWide = false := by simp [Cell.isWide, hcolumns]
  have := h.narrow x y k hcell hmark hwide
  omega

theorem aligned_compose {w : Nat} (hw : w < maxCoord) (h : Nat) (frame : Frame) (log : Log.Body)
    (pages : Pages) : (compose frame log pages w h).Aligned := by
  have hdraws : Draws (fun _ => True) (blank w h) (compose frame log pages w h) :=
    draws_compose hw h (fun _ _ => trivial) fun _ _ _ => trivial
  exact hdraws.aligned (aligned_blank w h)

end Canvas

/-! ## Commands -/

namespace Terminal

namespace Command

/-- The characters that a command prints. -/
def printed : Command → List Char
  | print text => text
  | _ => []

/-- The characters that are printed from the first move to the start of a row on. -/
def printedFrom (y : Nat) (cs : List Command) : List Char :=
  (cs.dropWhile (· ≠ .moveTo 0 y)).flatMap printed

theorem printedFrom_append {y : Nat} {cs : List Command} (h : .moveTo 0 y ∉ cs)
    (cs' : List Command) : printedFrom y (cs ++ cs') = printedFrom y cs' := by
  rw [printedFrom, List.dropWhile_append_of_pos, printedFrom]
  intro cmd hcmd
  exact decide_eq_true fun heq => h (heq ▸ hcmd)

theorem printed_runCommands (theme : Theme) (run : List Cell) :
    (Screen.runCommands theme run).flatMap printed = run.map Cell.ch := by
  rw [Screen.runCommands, List.flatMap_append, List.flatMap_singleton]
  split <;> rfl

theorem printed_cellCommands (theme : Theme) (cells : List Cell) :
    (Screen.cellCommands theme cells).flatMap printed =
      (cells.filter fun k => !k.isContinuation).map Cell.ch := by
  rw [Screen.cellCommands, List.flatMap_assoc]
  simp only [printed_runCommands]
  rw [List.flatMap_def, ← List.map_flatten, List.flatten_splitBy]

end Command

namespace Screen

open Command

variable {s : Screen} {c : Canvas}

theorem totalColumns_ch (cells : List Cell) :
    totalColumns ((cells.filter fun k => !k.isContinuation).map Cell.ch) =
      Cell.printedColumns cells := by
  rw [totalColumns, List.map_map]
  rfl

/-- The last row is sent last, if it is sent at all. -/
theorem staleRows_last (s : Screen) (hheight : 0 < c.height) :
    s.staleRows c = (List.range (c.height - 1)).filter (isStale (s.base c) c) ++
      if isStale (s.base c) c (c.height - 1) then [c.height - 1] else [] := by
  have hrange : List.range c.height = List.range (c.height - 1) ++ [c.height - 1] := by
    conv_lhs => rw [← Nat.sub_add_cancel hheight]
    exact List.range_succ
  rw [staleRows, hrange, List.filter_append, List.filter_singleton, cond_eq_ite]

theorem moveTo_not_mem_opening (y : Nat) : .moveTo 0 y ∉ s.opening c := by
  rw [opening]
  split <;> simp

theorem moveTo_not_mem_rows {theme : Theme} {y : Nat} {rows : List Nat} (h : y ∉ rows) :
    .moveTo 0 y ∉ rows.flatMap (rowCommands theme c) := by
  intro hmem
  obtain ⟨r, hr, hmem⟩ := List.mem_flatMap.mp hmem
  rcases mem_rowCommands hmem with heq | ⟨-, color, heq⟩ | ⟨text, heq, -⟩
  · cases heq
    exact h hr
  · cases heq
  · cases heq

/-- What a draw prints on the last row. -/
theorem printedFrom_drawCommands (s : Screen) (c : Canvas) :
    printedFrom (c.height - 1) (s.drawCommands c) =
      if isStale (s.base c) c (c.height - 1) then
        ((c.row (c.height - 1)).dropLast.filter fun k => !k.isContinuation).map Cell.ch
      else [] := by
  rw [drawCommands_eq, printedFrom_append (moveTo_not_mem_opening _)]
  rcases Nat.eq_zero_or_pos c.height with hzero | hheight
  · have hrows : s.staleRows c = [] := by
      rw [staleRows, hzero]
      rfl
    rw [hrows, Canvas.row_of_height_le (by omega)]
    exact (ite_self _).symm
  · have hupper : c.height - 1 ∉ (List.range (c.height - 1)).filter (isStale (s.base c) c) := by
      simp
    rw [s.staleRows_last hheight, List.flatMap_append, List.append_assoc,
      printedFrom_append (moveTo_not_mem_rows hupper)]
    split
    · rw [List.flatMap_singleton, rowCommands, sentCells, if_pos (Nat.sub_add_cancel hheight),
        List.cons_append, printedFrom, List.dropWhile_cons_of_neg (by simp), List.flatMap_cons,
        List.flatMap_append, printed_cellCommands]
      simp [printed]
    · rfl

/-- The columns that a draw prints on the last row. -/
def lastRowColumns (s : Screen) (c : Canvas) : Nat :=
  totalColumns (printedFrom (c.height - 1) (s.drawCommands c))

theorem lastRowColumns_eq (s : Screen) (c : Canvas) :
    s.lastRowColumns c = if isStale (s.base c) c (c.height - 1) then
      Cell.printedColumns (c.row (c.height - 1)).dropLast else 0 := by
  rw [lastRowColumns, printedFrom_drawCommands]
  split
  · exact totalColumns_ch _
  · rfl

/-- A draw of a canvas that is well formed or has been composed stays left of the corner, unless it
sends the last row and a character has its second half in the corner, or one of three columns stands
on that row.  No well-formed canvas has one of three columns. -/
theorem draw_spares_corner_iff {c : Canvas} (hc : c.WellFormed ∨
      ∃ frame log pages w h, w < maxCoord ∧ c = compose frame log pages w h) (s : Screen) :
    let y := c.height - 1
    (s.lastRowColumns c ≤ c.width - 1 ↔
      (isStale (s.base c) c y = true → c.isMarkAt (c.width - 1) y = false ∧
        ∀ k ∈ (c.row y).dropLast, k.ch ≠ beyyal)) ∧
    (0 < c.height → isStale (s.base c) c y = true →
      s.lastRowColumns c = c.width - 1 + (c.isMarkAt (c.width - 1) y).toNat +
        2 * (c.row y).dropLast.countP fun k => k.ch = beyyal) ∧
    (c.WellFormed → ∀ k ∈ c.row y, k.ch ≠ beyyal) := by
  intro y
  have hdrawn : c.Aligned ∧ c.IsVisible := by
    rcases hc with hwell | ⟨frame, log, pages, w, h, hw, rfl⟩
    · exact ⟨hwell.aligned, hwell.isVisible⟩
    · exact ⟨Canvas.aligned_compose hw h frame log pages,
        Canvas.isVisible_compose hw h frame log pages⟩
  have hcolumns : 0 < c.height → Cell.printedColumns (c.row y).dropLast =
      c.width - 1 + (c.isMarkAt (c.width - 1) y).toNat +
        2 * (c.row y).dropLast.countP fun k => k.ch = beyyal := fun hheight =>
    Canvas.printedColumns_dropLast hdrawn.1 hdrawn.2 (Nat.sub_one_lt_of_lt hheight)
  refine ⟨?_, ?_, fun hwell k hk => hwell.ne_beyyal hk⟩
  · rw [lastRowColumns_eq]
    split
    · rename_i hstale
      rw [imp_iff_right hstale]
      rcases Nat.eq_zero_or_pos c.height with hzero | hheight
      · have hempty : c.row y = [] := Canvas.row_of_height_le (by omega)
        rw [hempty, Canvas.isMarkAt_off (by omega)]
        exact iff_of_true (Nat.zero_le _) ⟨rfl, fun _ hk => by cases hk⟩
      · have hnone : (c.row y).dropLast.countP (fun k => k.ch = beyyal) = 0 ↔
            ∀ k ∈ (c.row y).dropLast, k.ch ≠ beyyal := by
          simp only [List.countP_eq_zero, decide_eq_true_eq]
        rw [hcolumns hheight, ← hnone]
        cases c.isMarkAt (c.width - 1) y with
        | false =>
            rw [Bool.toNat_false, eq_self, true_and]
            omega
        | true =>
            rw [Bool.toNat_true, Bool.true_eq_false, false_and, iff_false]
            omega
    · rename_i hfresh
      exact iff_of_true (Nat.zero_le _) fun hstale => absurd hstale hfresh
  · intro hheight hstale
    rw [lastRowColumns_eq, if_pos hstale]
    exact hcolumns hheight

/-- A canvas of four columns in one row with a text in it. -/
def ribbon (x : Nat) (text : String) : Canvas :=
  Canvas.Stroke.picture 4 1 [.text x 0 text .normal 4]

theorem wellFormed_ribbon (x : Nat) {text : String} (h : beyyal ∉ text.toList) :
    (ribbon x text).WellFormed := by
  refine Canvas.Stroke.wellFormed_picture (by decide) 1 ?_ ?_
  · simp [Canvas.Stroke.IsRegular]
  · simpa [Canvas.Stroke.chars] using h

/-- A row that ends in a narrow character leaves the corner alone. -/
theorem draw_spares_corner_narrow :
    (ribbon 0 "日ab").WellFormed ∧
      (fresh ⟨4, 1⟩ .standard).lastRowColumns (ribbon 0 "日ab") ≤ 4 - 1 := by
  have hwell : (ribbon 0 "日ab").WellFormed := wellFormed_ribbon 0 (by decide)
  have hwidth : (ribbon 0 "日ab").width = 4 := by decide +kernel
  obtain ⟨hiff, -, hfree⟩ := draw_spares_corner_iff (.inl hwell) (fresh ⟨4, 1⟩ .standard)
  rw [hwidth] at hiff
  refine ⟨hwell, hiff.mpr fun _ => ⟨by decide +kernel, fun k hk => ?_⟩⟩
  exact hfree hwell k ((List.dropLast_sublist _).mem hk)

/-- A row that ends in a wide character fills the corner: the character starts in the cell before. -/
theorem draw_fills_corner_wide :
    (ribbon 2 "日").WellFormed ∧
      (fresh ⟨4, 1⟩ .standard).lastRowColumns (ribbon 2 "日") = 4 ∧
      (Display.initial.execAll ((fresh ⟨4, 1⟩ .standard).drawCommands (ribbon 2 "日"))).cells 3 0 =
        ⟨Cell.continuationMark, .white⟩ := by
  exact ⟨wellFormed_ribbon 2 (by decide), by decide +kernel, by decide +kernel⟩

end Screen

end Terminal

end StatusBoard
