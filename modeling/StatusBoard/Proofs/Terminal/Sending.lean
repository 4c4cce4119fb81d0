import StatusBoard.Proofs.Terminal.Painting

/-!
What a draw sends, and what a console shows that has received all of it.

A draw sends an opening, which clears the console if the draw builds upon nothing, and then the
rows that are stale.
-/

namespace StatusBoard.Terminal

open Text

namespace Screen

theorem mem_runCommands {theme : Theme} {run : List Cell} {cmd : Command}
    (h : cmd ∈ runCommands theme run) :
    (theme.isColored = true ∧ ∃ color, cmd = .foreground color) ∨
      cmd = .print (run.map Cell.ch) := by
  rw [runCommands] at h
  rcases List.mem_append.mp h with h | h
  · left
    cases hc : theme.isColored with
    | false =>
        have hnone : (run.head?.bind fun k => theme.color k.tone) = none := by
          cases run <;> simp [Theme.color, hc]
        rw [hnone] at h
        simp at h
    | true =>
        refine ⟨rfl, ?_⟩
        split at h
        · exact ⟨_, List.mem_singleton.mp h⟩
        · simp at h
  · exact .inr (List.mem_singleton.mp h)

theorem mem_cellCommands {theme : Theme} {cells : List Cell} {cmd : Command}
    (h : cmd ∈ cellCommands theme cells) :
    (theme.isColored = true ∧ ∃ color, cmd = .foreground color) ∨
      ∃ text, cmd = .print text ∧
        ∀ ch ∈ text, ∃ k ∈ cells, k.isContinuation = false ∧ k.ch = ch := by
  rw [cellCommands] at h
  obtain ⟨run, hrun, h⟩ := List.mem_flatMap.mp h
  rcases mem_runCommands h with hcolor | rfl
  · exact .inl hcolor
  · refine .inr ⟨_, rfl, ?_⟩
    intro ch hch
    obtain ⟨k, hk, rfl⟩ := List.mem_map.mp hch
    have hmem : k ∈ cells.filter fun k => !k.isContinuation := by
      rw [← List.flatten_splitBy (fun a b => decide (a.tone = b.tone))
        (cells.filter fun k => !k.isContinuation)]
      exact List.mem_flatten.mpr ⟨run, hrun, hk⟩
    rw [List.mem_filter, Bool.not_eq_true'] at hmem
    exact ⟨k, hmem.1, hmem.2, rfl⟩

theorem mem_rowCommands {theme : Theme} {c : Canvas} {y : Nat} {cmd : Command}
    (h : cmd ∈ rowCommands theme c y) :
    cmd = .moveTo 0 y ∨ (theme.isColored = true ∧ ∃ color, cmd = .foreground color) ∨
      ∃ text, cmd = .print text ∧
        ∀ ch ∈ text, ∃ k ∈ c.row y, k.isContinuation = false ∧ k.ch = ch := by
  rcases List.mem_cons.mp h with h | h
  · exact .inl h
  · right
    rcases mem_cellCommands h with hcolor | ⟨text, htext, hcells⟩
    · exact .inl hcolor
    · refine .inr ⟨text, htext, ?_⟩
      intro ch hch
      obtain ⟨k, hk, hch⟩ := hcells ch hch
      refine ⟨k, ?_, hch⟩
      rw [sentCells] at hk
      split at hk
      · exact (List.dropLast_sublist _).mem hk
      · exact hk

/-- A command that prints no escape and that chooses no color unless colors are in use. -/
def IsApt (theme : Theme) (cmd : Command) : Prop :=
  cmd.IsPlain ∧ ∀ color, cmd = .foreground color → theme.isColored = true

theorem isApt_of_mem_rowCommands {theme : Theme} {c : Canvas} (hc : c.WellFormed) {y : Nat}
    {cmd : Command} (h : cmd ∈ rowCommands theme c y) : IsApt theme cmd := by
  rcases mem_rowCommands h with rfl | ⟨hcolor, color, rfl⟩ | ⟨text, rfl, htext⟩
  · exact ⟨trivial, fun _ h => by cases h⟩
  · exact ⟨trivial, fun _ _ => hcolor⟩
  · refine ⟨?_, fun _ h => by cases h⟩
    intro ch hch hescape
    obtain ⟨k, hk, hmark, rfl⟩ := htext ch hch
    have hwidth := hc.columns_pos hk hmark
    rw [hescape] at hwidth
    exact absurd hwidth (by decide)

def opening (s : Screen) (c : Canvas) : List Command :=
  if (s.base c).isNone then [.resetColor, .clear] else []

def staleRows (s : Screen) (c : Canvas) : List Nat :=
  (List.range c.height).filter (isStale (s.base c) c)

theorem drawCommands_eq (s : Screen) (c : Canvas) :
    s.drawCommands c =
      s.opening c ++ ((s.staleRows c).flatMap (rowCommands s.theme c) ++ [.resetColor]) := by
  rw [drawCommands, List.append_assoc]
  rfl

/-- What a draw sends after the opening if it builds upon nothing. -/
def allRows (theme : Theme) (c : Canvas) : List Command :=
  (List.range c.height).flatMap (rowCommands theme c) ++ [.resetColor]

theorem drawCommands_of_base_eq_none {s : Screen} {c : Canvas} (h : s.base c = none) :
    s.drawCommands c = [.resetColor, .clear] ++ allRows s.theme c := by
  have hstale : s.staleRows c = List.range c.height := by
    rw [staleRows, h]
    exact List.filter_eq_self.mpr fun _ _ => rfl
  rw [drawCommands_eq, hstale, opening, h]
  rfl

theorem lt_of_mem_staleRows {s : Screen} {c : Canvas} {y : Nat} (h : y ∈ s.staleRows c) :
    y < c.height := List.mem_range.mp (List.mem_of_mem_filter h)

theorem base_eq_some_iff {s : Screen} {c p : Canvas} :
    s.base c = some p ↔ s.shown = some p ∧ p.width = c.width ∧ p.height = c.height := by
  rw [base, Option.filter_eq_some_iff, Bool.and_eq_true, decide_eq_true_eq, decide_eq_true_eq]

/-- A row that is not sent is the same on the canvas that the draw builds upon. -/
theorem row_eq_of_not_mem_staleRows {s : Screen} {c p : Canvas} (hbase : s.base c = some p)
    {y : Nat} (h : y ∉ s.staleRows c) : p.row y = c.row y := by
  by_cases hy : y < c.height
  · rw [staleRows, List.mem_filter, hbase] at h
    simpa [isStale, hy] using h
  · have hheight := (base_eq_some_iff.mp hbase).2.2
    rw [Canvas.row, if_neg (by omega), Canvas.row, if_neg hy]

theorem isApt_of_mem_drawCommands {s : Screen} {c : Canvas} (hc : c.WellFormed) {cmd : Command}
    (h : cmd ∈ s.drawCommands c) : IsApt s.theme cmd := by
  rw [drawCommands_eq, List.mem_append, List.mem_append, List.mem_flatMap, List.mem_singleton] at h
  rcases h with h | ⟨y, -, h⟩ | rfl
  · rw [opening] at h
    split at h
    · rcases List.mem_cons.mp h with rfl | h
      · exact ⟨trivial, fun _ h => by cases h⟩
      · rw [List.mem_singleton.mp h]
        exact ⟨trivial, fun _ h => by cases h⟩
    · simp at h
  · exact isApt_of_mem_rowCommands hc h
  · exact ⟨trivial, fun _ h => by cases h⟩

/-- A list of commands that starts with a control command. -/
def Starts (cs : List Command) : Prop := ∃ cmd rest, cs = cmd :: rest ∧ cmd.isControl = true

theorem starts_rows (theme : Theme) (c : Canvas) (rows : List Nat) :
    Starts (rows.flatMap (rowCommands theme c) ++ [.resetColor]) := by
  cases rows with
  | nil => exact ⟨.resetColor, [], rfl, rfl⟩
  | cons y rows => exact ⟨.moveTo 0 y, _, rfl, rfl⟩

theorem starts_drawCommands (s : Screen) (c : Canvas) : Starts (s.drawCommands c) := by
  rw [drawCommands_eq, opening]
  split
  · exact ⟨.resetColor, _, rfl, rfl⟩
  · exact starts_rows s.theme c _

end Screen

namespace Display

open Screen

theorem follows_execAll {theme : Theme} {cs : List Command} (h : ∀ cmd ∈ cs, IsApt theme cmd)
    {d : Display} (hd : d.Follows theme) : (d.execAll cs).Follows theme := by
  induction cs generalizing d with
  | nil => exact hd
  | cons cmd cs ih =>
      refine ih (fun c hc => h c (List.mem_cons_of_mem cmd hc)) ?_
      intro hcolored
      cases cmd with
      | foreground color =>
          have := (h _ (List.mem_cons_self ..)).2 color rfl
          rw [hcolored] at this
          cases this
      | resetColor => rfl
      | print text => exact (color_foldl_put d text).trans (hd hcolored)
      | _ => exact hd hcolored

theorem Shows.congr {theme : Theme} {d d' : Display} {c : Canvas} {y : Nat} (h : d.Shows theme c y)
    (hcells : ∀ x, d'.cells x y = d.cells x y) : d'.Shows theme c y := by
  intro x hx hcorner
  rw [hcells, h x hx hcorner]

theorem Shows.of_row_eq {theme : Theme} {d : Display} {p c : Canvas} {y : Nat}
    (h : d.Shows theme p y) (hwidth : p.width = c.width) (hheight : p.height = c.height)
    (hrow : p.row y = c.row y) :
    d.Shows theme c y := by
  intro x hx hcorner
  rw [← Canvas.glyph_congr theme hrow x]
  refine h x (hwidth ▸ hx) ?_
  rw [Canvas.IsCorner, hwidth, hheight]
  exact hcorner

section

variable {theme : Theme} {c : Canvas} (hc : c.WellFormed) {rows : List Nat}
  (hrows : ∀ y ∈ rows, y < c.height) {d : Display} (hd : d.Follows theme)

include hc hrows hd

/-- Cells outside the rows that are sent stay as they are. -/
theorem cells_rows_of_not_mem {x y : Nat} (h : ¬ (y ∈ rows ∧ x < c.width)) :
    (d.execAll (rows.flatMap (rowCommands theme c))).cells x y = d.cells x y := by
  induction rows generalizing d with
  | nil => rfl
  | cons r rows ih =>
      have hr := hrows r (List.mem_cons_self ..)
      rw [List.flatMap_cons, execAll_append, ih (fun y hy => hrows y (List.mem_cons_of_mem r hy))
        (follows_execAll (fun _ => isApt_of_mem_rowCommands hc) hd)
        (fun hmem => h ⟨List.mem_cons_of_mem r hmem.1, hmem.2⟩)]
      refine cells_rowCommands_of_ne hc hr hd ?_
      rintro ⟨rfl, hx⟩
      exact h ⟨List.mem_cons_self .., hx⟩

theorem shows_rows {y : Nat} (h : y ∈ rows) :
    (d.execAll (rows.flatMap (rowCommands theme c))).Shows theme c y := by
  induction rows generalizing d with
  | nil => simp at h
  | cons r rows ih =>
      have hrest := fun y hy => hrows y (List.mem_cons_of_mem r hy)
      have hfollows := follows_execAll (fun _ => isApt_of_mem_rowCommands hc (y := r)) hd
      rw [List.flatMap_cons, execAll_append]
      by_cases hmem : y ∈ rows
      · exact ih hrest hfollows hmem
      · obtain rfl : y = r := by
          rcases List.mem_cons.mp h with rfl | h
          · rfl
          · exact absurd h hmem
        have hshows := shows_rowCommands hc (hrows y (List.mem_cons_self ..)) hd
        refine hshows.congr fun x => ?_
        exact cells_rows_of_not_mem hc hrest hfollows fun hin => hmem hin.1

end

/-! ## Whole draws -/

section

variable {s : Screen} {c : Canvas} (hc : c.WellFormed) {d : Display} (hd : d.Follows s.theme)

include hc

/-- A draw that builds upon nothing shows the canvas and nothing else. -/
theorem cells_draw_of_base_eq_none (hbase : s.base c = none) {x y : Nat} (h : ¬ c.IsCorner x y) :
    (d.execAll (s.drawCommands c)).cells x y = c.glyph s.theme x y := by
  have hrows : ∀ r ∈ List.range c.height, r < c.height := fun r => List.mem_range.mp
  have hfollows : (d.execAll [.resetColor, .clear]).Follows s.theme := fun _ => rfl
  rw [drawCommands_of_base_eq_none hbase, allRows, execAll_append, execAll_append]
  change ((d.execAll [.resetColor, .clear]).execAll _).cells x y = _
  by_cases hin : x < c.width ∧ y < c.height
  · exact shows_rows hc hrows hfollows (List.mem_range.mpr hin.2) x hin.1 h
  · rw [cells_rows_of_not_mem hc hrows hfollows
      (fun hmem => hin ⟨hmem.2, List.mem_range.mp hmem.1⟩), Canvas.glyph_off hin]
    rfl

include hd

theorem shows_draw_of_isStale {y : Nat} (hy : y < c.height)
    (hstale : isStale (s.base c) c y = true) :
    (d.execAll (s.drawCommands c)).Shows s.theme c y := by
  have hmem : y ∈ s.staleRows c := List.mem_filter.mpr ⟨List.mem_range.mpr hy, hstale⟩
  have hfollows : (d.execAll (s.opening c)).Follows s.theme := by
    refine follows_execAll (fun cmd hcmd => isApt_of_mem_drawCommands hc ?_) hd
    rw [drawCommands_eq]
    exact List.mem_append_left _ hcmd
  rw [drawCommands_eq, execAll_append, execAll_append]
  exact shows_rows hc (fun _ => lt_of_mem_staleRows) hfollows hmem

/-- What is not part of a stale row stays as it is when a draw builds upon a canvas. -/
theorem cells_draw_of_not_isStale {p : Canvas} (hbase : s.base c = some p) {x y : Nat}
    (h : ¬ (y ∈ s.staleRows c ∧ x < c.width)) :
    (d.execAll (s.drawCommands c)).cells x y = d.cells x y := by
  have hopening : s.opening c = [] := by
    rw [opening, hbase]
    rfl
  rw [drawCommands_eq, hopening, List.nil_append, execAll_append]
  exact cells_rows_of_not_mem hc (fun _ => lt_of_mem_staleRows) hd h

/-- A draw shows the canvas if what it builds upon was shown. -/
theorem cells_draw (hbefore : ∀ p, s.base c = some p → ∀ x y, ¬ p.IsCorner x y →
      d.cells x y = p.glyph s.theme x y) {x y : Nat} (h : ¬ c.IsCorner x y) :
    (d.execAll (s.drawCommands c)).cells x y = c.glyph s.theme x y := by
  cases hbase : s.base c with
  | none => exact cells_draw_of_base_eq_none hc hbase h
  | some p =>
      obtain ⟨-, hwidth, hheight⟩ := base_eq_some_iff.mp hbase
      have hcorner : ¬ p.IsCorner x y := by
        rw [Canvas.IsCorner, hwidth, hheight]
        exact h
      have hshown := hbefore p hbase x y hcorner
      by_cases hstale : y ∈ s.staleRows c
      · by_cases hx : x < c.width
        · exact shows_draw_of_isStale hc hd (lt_of_mem_staleRows hstale)
            (List.mem_filter.mp hstale).2 x hx h
        · rw [cells_draw_of_not_isStale hc hd hbase (fun hin => hx hin.2), hshown,
            Canvas.glyph_off (by omega), Canvas.glyph_off (fun hin => hx hin.1)]
      · rw [cells_draw_of_not_isStale hc hd hbase (fun hin => hstale hin.1), hshown]
        exact Canvas.glyph_congr _ (row_eq_of_not_mem_staleRows hbase hstale) x

end

end Display

end StatusBoard.Terminal
