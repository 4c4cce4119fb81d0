import StatusBoard.Frame.Basic
import StatusBoard.Proofs.Canvas.Inscription
import StatusBoard.Proofs.Log.Ending
import Mathlib.Data.List.Basic

/-!
How header, footer and body share the rows of a frame.

The entries of one kind and alignment are numbered.  Header entry number `k` has row `k` and footer
entry number `k` has row `k` from below, as long as there is such a row; what comes later is left
out.  The tallest of the three alignments says how many rows a kind takes, and the body has the rows
between the two kinds but for one next to each.
-/

namespace StatusBoard.Frame

open Text Canvas

/-! ## Rows of the entries -/

/-- The number of entries of one kind and alignment. -/
def tally (header : Bool) (a : Align) (es : List Entry) : Nat :=
  es.countP fun e => e.header = header ∧ e.align = a

/-- The row of an entry that comes after others; none if all rows are taken. -/
def seat (height : Nat) (before : List Entry) (e : Entry) : Option Nat :=
  if height ≤ tally e.header e.align before then none
  else some (if e.header then tally e.header e.align before
    else height - 1 - tally e.header e.align before)

/-- The entries that have a row, each with it, in the order they were added. -/
def seats (height : Nat) (es : List Entry) : List (Nat × Entry) :=
  es.zipIdx.filterMap fun s => (seat height (es.take s.2) s.1).map (·, s.1)

/-- The number of rows that the entries of a kind take, which is that of its tallest alignment. -/
def depth (height : Nat) (header : Bool) (es : List Entry) : Nat :=
  min height (max (tally header .left es) (max (tally header .center es) (tally header .right es)))

/-- The first row of the body. -/
def bodyTop (height : Nat) (es : List Entry) : Nat :=
  if 0 < depth height true es then depth height true es + 1 else 0

/-- The first row below the body. -/
def bodyBottom (height : Nat) (es : List Entry) : Nat :=
  if 0 < depth height false es then height - depth height false es - 1 else height

variable {height : Nat} {es : List Entry} {e : Entry}

theorem tally_concat (header : Bool) (a : Align) (es : List Entry) (e : Entry) :
    tally header a (es ++ [e]) =
      tally header a es + if e.header = header ∧ e.align = a then 1 else 0 := by
  rw [tally, List.countP_append, List.countP_singleton, tally]
  simp only [decide_eq_true_eq]

theorem tally_take_lt {i : Nat} (h : es[i]? = some e) :
    tally e.header e.align (es.take i) < tally e.header e.align es := by
  obtain ⟨hi, rfl⟩ := List.getElem?_eq_some_iff.mp h
  have hsplit := congrArg (tally es[i].header es[i].align) (List.take_append_drop i es)
  rw [List.drop_eq_getElem_cons hi, tally, List.countP_append, List.countP_cons] at hsplit
  simp only [and_self, decide_true, if_true] at hsplit
  rw [← hsplit, tally]
  omega

theorem seat_eq_none_iff : seat height es e = none ↔ height ≤ tally e.header e.align es := by
  rw [seat]
  split
  · rename_i hfull
    exact iff_of_true rfl hfull
  · rename_i hroom
    exact iff_of_false (Option.some_ne_none _) hroom

theorem seat_eq_some_iff {y : Nat} : seat height es e = some y ↔
    tally e.header e.align es < height ∧
      y = if e.header then tally e.header e.align es else height - 1 - tally e.header e.align es := by
  rw [seat]
  split
  · rename_i hfull
    exact iff_of_false (Option.some_ne_none _).symm fun h => absurd hfull (Nat.not_le.mpr h.1)
  · rename_i hroom
    rw [Option.some.injEq, eq_comm]
    exact (and_iff_right (Nat.not_le.mp hroom)).symm

theorem seats_concat (height : Nat) (es : List Entry) (e : Entry) :
    seats height (es ++ [e]) = seats height es ++ ((seat height es e).map (·, e)).toList := by
  rw [seats, List.zipIdx_append, List.filterMap_append, List.zipIdx_singleton, Nat.zero_add]
  congr 1
  · refine List.filterMap_congr fun s hs => ?_
    have hlt := List.snd_lt_of_mem_zipIdx hs
    rw [List.take_append_of_le_length (by omega)]
  · have hlast : (es ++ [e]).take es.length = es := List.take_left
    simp only [List.filterMap_cons, List.filterMap_nil, hlast]
    cases seat height es e <;> rfl

theorem mem_seats {s : Nat × Entry} (h : s ∈ seats height es) :
    ∃ i, es[i]? = some s.2 ∧ seat height (es.take i) s.2 = some s.1 := by
  obtain ⟨⟨e, i⟩, hmem, hseat⟩ := List.mem_filterMap.mp h
  obtain ⟨y, hy, rfl⟩ := Option.map_eq_some_iff.mp hseat
  exact ⟨i, List.mk_mem_zipIdx_iff_getElem?.mp hmem, hy⟩

theorem tally_le_depth (header : Bool) (a : Align) (es : List Entry) :
    min height (tally header a es) ≤ depth height header es := by
  unfold depth
  cases a <;> omega

/-- Header entries are on the rows that their kind takes, and footer entries as well. -/
theorem row_of_mem_seats {s : Nat × Entry} (h : s ∈ seats height es) :
    s.1 < height ∧
      if s.2.header then s.1 < depth height true es else height - depth height false es ≤ s.1 := by
  obtain ⟨i, hentry, hseat⟩ := mem_seats h
  have hlt := tally_take_lt hentry
  have hdepth : min height _ ≤ _ := tally_le_depth s.2.header s.2.align es
  obtain ⟨hroom, hrow⟩ := seat_eq_some_iff.mp hseat
  cases hheader : s.2.header with
  | true =>
      rw [hheader, if_pos rfl] at hrow
      rw [hheader] at hlt hdepth hroom
      rw [if_pos rfl]
      omega
  | false =>
      rw [hheader, if_neg Bool.false_ne_true] at hrow
      rw [hheader] at hlt hdepth hroom
      rw [if_neg Bool.false_ne_true]
      omega

/-- The column at which an entry starts. -/
def Entry.start (e : Entry) (area : Rect) : Nat :=
  match e.align with
  | .left => area.x
  | .center => area.x + (area.width - min e.width maxCoord) / 2
  | .right => area.x + (area.width - min e.width maxCoord)

theorem drawEntry_eq (c : Canvas) (area : Rect) (y : Nat) (e : Entry) :
    drawEntry c area y e = drawSpans c area (e.start area) y e.spans := rfl

/-- The cell that runs of text put on a column if they are written one after the other. -/
def spansLettering (col limit x : Nat) : List Span → Option Cell
  | [] => none
  | s :: rest =>
      let next := col + totalColumns ((fitting col limit s.text.toList).map Prod.snd)
      (lettering s.text s.tone col limit x).or (spansLettering next limit x rest)

/-- The cell that an entry puts on a column of its row. -/
def Entry.lettering (e : Entry) (area : Rect) (x : Nat) : Option Cell :=
  spansLettering (e.start area) area.right x e.spans

/-- Whether a column is left of all that some entries put on a row, with one between. -/
def LeftOf (area : Rect) (x y : Nat) (ss : List (Nat × Entry)) : Prop :=
  ∀ s ∈ ss, s.1 = y → x + 1 < s.2.start area

instance (area : Rect) (x y : Nat) (ss : List (Nat × Entry)) : Decidable (LeftOf area x y ss) :=
  inferInstanceAs (Decidable (∀ s ∈ ss, s.1 = y → x + 1 < s.2.start area))

/-! ## Drawing the entries -/

/-- Draw each entry that has a row on it. -/
def drawEntries (c : Canvas) (es : List Entry) : Canvas :=
  (seats c.height es).foldl (fun d s => drawEntry d c.area s.1 s.2) c

/-- What holds of the canvas and of the row counters after some entries. -/
structure Stacked (c : Canvas) (es : List Entry) (p : Progress) : Prop where
  canvas : p.canvas = drawEntries c es
  top : ∀ a, p.top.get a = min c.height (tally true a es)
  bottom : ∀ a, p.bottom.get a = c.height - tally false a es

variable {c : Canvas} {p : Progress}

theorem area_right (hmax : c.width ≤ maxCoord) : c.area.right = c.width :=
  (addCoord_eq ((Nat.zero_add _).symm ▸ hmax)).trans (Nat.zero_add _)

theorem area_bottom (hmax : c.height ≤ maxCoord) : c.area.bottom = c.height :=
  (addCoord_eq ((Nat.zero_add _).symm ▸ hmax)).trans (Nat.zero_add _)

theorem drawEntries_concat (c : Canvas) (es : List Entry) (e : Entry) :
    drawEntries c (es ++ [e]) = (seat c.height es e).elim (drawEntries c es)
      fun y => drawEntry (drawEntries c es) c.area y e := by
  rw [drawEntries, seats_concat, List.foldl_append, ← drawEntries]
  cases seat c.height es e <;> rfl

/-- The counters give each entry its row. -/
theorem Stacked.place_eq (h : Stacked c es p) (hmax : c.height ≤ maxCoord) (e : Entry) :
    p.place c.area e = (seat c.height es e).elim p fun y =>
      { canvas := drawEntry p.canvas c.area y e
        top := if e.header then p.top.put (y + 1) e.align else p.top
        bottom := if e.header then p.bottom else p.bottom.put y e.align } := by
  have hzero : c.area.y = 0 := rfl
  rw [seat, Progress.place]
  cases hheader : e.header with
  | true =>
      simp only [if_true, h.top, area_bottom hmax]
      by_cases hfull : c.height ≤ tally true e.align es
      · rw [if_pos hfull, if_pos (by omega), Option.elim_none]
      · rw [if_neg hfull, if_neg (by omega), Option.elim_some, Nat.min_eq_right (by omega)]
  | false =>
      simp only [Bool.false_eq_true, if_false, h.bottom, hzero]
      by_cases hfull : c.height ≤ tally false e.align es
      · rw [if_pos hfull, if_pos (by omega), Option.elim_none]
      · rw [if_neg hfull, if_neg (by omega), Option.elim_some, Nat.sub_right_comm]

theorem Stacked.place (h : Stacked c es p) (hmax : c.height ≤ maxCoord) (e : Entry) :
    Stacked c (es ++ [e]) (p.place c.area e) := by
  rw [h.place_eq hmax]
  cases hseat : seat c.height es e with
  | none =>
      have hfull := seat_eq_none_iff.mp hseat
      refine ⟨?_, fun a => ?_, fun a => ?_⟩
      · rw [drawEntries_concat, hseat]
        exact h.canvas
      · rw [Option.elim_none, h.top, tally_concat]
        split
        · rename_i hsame
          rw [← hsame.1, ← hsame.2]
          omega
        · rfl
      · rw [Option.elim_none, h.bottom, tally_concat]
        split
        · rename_i hsame
          rw [← hsame.1, ← hsame.2]
          omega
        · rfl
  | some y =>
      obtain ⟨hroom, hrow⟩ := seat_eq_some_iff.mp hseat
      refine ⟨?_, fun a => ?_, fun a => ?_⟩
      · rw [drawEntries_concat, hseat, Option.elim_some, Option.elim_some, h.canvas]
      · rw [tally_concat, Option.elim_some]
        cases hheader : e.header with
        | true =>
            rw [hheader] at hroom hrow
            rw [if_pos rfl] at hrow ⊢
            rw [Rows.get_put, h.top]
            by_cases hsame : a = e.align
            · rw [if_pos hsame, if_pos ⟨rfl, hsame.symm⟩, hsame]
              omega
            · rw [if_neg hsame, if_neg fun h => hsame h.2.symm, Nat.add_zero]
        | false =>
            rw [if_neg Bool.false_ne_true, h.top, if_neg fun h => Bool.false_ne_true h.1,
              Nat.add_zero]
      · rw [tally_concat, Option.elim_some]
        cases hheader : e.header with
        | true =>
            simp only [if_true]
            rw [h.bottom, if_neg fun h => Bool.false_ne_true h.1.symm, Nat.add_zero]
        | false =>
            rw [hheader] at hroom hrow
            simp only [Bool.false_eq_true, if_false] at hrow ⊢
            rw [Rows.get_put, h.bottom]
            by_cases hsame : a = e.align
            · rw [if_pos hsame, if_pos ⟨trivial, hsame.symm⟩, hsame]
              omega
            · rw [if_neg hsame, if_neg fun h => hsame h.2.symm, Nat.add_zero]

theorem Stacked.foldl_place (h : Stacked c es p) (hmax : c.height ≤ maxCoord) (more : List Entry) :
    Stacked c (es ++ more) (more.foldl (Progress.place c.area) p) := by
  induction more generalizing es p with
  | nil => rwa [List.append_nil]
  | cons e more ih =>
      have hrest := ih (h.place hmax e)
      rwa [List.append_assoc, List.singleton_append] at hrest

theorem stacked_start (c : Canvas) : Stacked c [] ⟨c, .all 0, .all c.height⟩ := by
  refine ⟨rfl, fun a => ?_, fun a => ?_⟩
  · cases a <;> exact (Nat.min_zero _).symm
  · cases a <;> rfl

theorem Stacked.bodyRows_eq (h : Stacked c es p) (hmax : c.height ≤ maxCoord) :
    bodyRows c.area p.top p.bottom = (bodyTop c.height es, bodyBottom c.height es) := by
  obtain ⟨-, htop, hbottom⟩ := h
  have hhighest : p.top.highest = depth c.height true es := by
    have hleft : p.top.left = _ := htop .left
    have hcenter : p.top.center = _ := htop .center
    have hright : p.top.right = _ := htop .right
    rw [Rows.highest, hleft, hcenter, hright, depth]
    omega
  have hlowest : p.bottom.lowest = c.height - depth c.height false es := by
    have hleft : p.bottom.left = _ := hbottom .left
    have hcenter : p.bottom.center = _ := hbottom .center
    have hright : p.bottom.right = _ := hbottom .right
    rw [Rows.lowest, hleft, hcenter, hright, depth]
    omega
  have hle : depth c.height false es ≤ c.height := Nat.min_le_left ..
  have hzero : c.area.y = 0 := rfl
  rw [bodyRows, hhighest, hlowest, area_bottom hmax, hzero, bodyTop, bodyBottom]
  congr 1
  split
  · rw [if_pos (by omega)]
  · rw [if_neg (by omega)]

/-! ## What each part changes -/

theorem onlyRows_drawSpans (c : Canvas) (area : Rect) (col y : Nat) (spans : List Span) :
    OnlyRows y (y + 1) c (drawSpans c area col y spans) := by
  induction spans generalizing c col with
  | nil => exact OnlyRows.refl y (y + 1) c
  | cons s rest ih =>
      have hfirst := OnlyRows.putText (show y ≤ y ∧ y < y + 1 by omega) c col s.text s.tone area.right
      exact hfirst.trans (ih _ _)

theorem onlyRows_drawEntry (c : Canvas) (area : Rect) (y : Nat) (e : Entry) :
    OnlyRows y (y + 1) c (drawEntry c area y e) := onlyRows_drawSpans ..

theorem drawSpans_cons (c : Canvas) (area : Rect) (col y : Nat) (s : Span) (rest : List Span) :
    drawSpans c area col y (s :: rest) =
      drawSpans (c.putChars col y s.tone (min area.right c.width) s.text.toList).1 area
        (c.putChars col y s.tone (min area.right c.width) s.text.toList).2 y rest := by
  have hend := le_putChars c col y s.tone (min area.right c.width) s.text.toList
  rw [drawSpans, putText_eq]
  simp only [Nat.add_sub_cancel' hend]

/-- What is kept stays while runs of text are written one after the other. -/
theorem cell?_drawSpans_of_kept {k : Option Cell} {x y col : Nat} (h : c.Kept x y col k)
    (area : Rect) (spans : List Span) : (drawSpans c area col y spans).cell? x y = k := by
  induction spans generalizing c col with
  | nil => exact h.cell
  | cons s rest ih =>
      rw [drawSpans_cons]
      exact ih (h.putChars s.tone (min area.right c.width) s.text.toList)

theorem spaced_drawSpans {y : Nat} (h : c.Spaced y) (area : Rect) (col : Nat)
    (spans : List Span) : (drawSpans c area col y spans).Spaced y := by
  induction spans generalizing c col with
  | nil => exact h
  | cons s rest ih => exact ih (h.putChars col s.tone (min area.right c.width) s.text.toList) _

theorem spaced_drawEntry {y : Nat} (h : c.Spaced y) (area : Rect) (row : Nat) (e : Entry) :
    (drawEntry c area row e).Spaced y := by
  by_cases hrow : row = y
  · subst hrow
    exact spaced_drawSpans h area _ e.spans
  · have hsame := (onlyRows_drawEntry c area row e).sameRow (y := y) (by omega)
    refine h.of_imp fun x hmark => ?_
    rwa [isMarkAt, hsame.cell] at hmark

/-- Runs of text show their characters as far as there is room. -/
theorem cell?_drawSpans {x y col : Nat} {area : Rect} (h : c.Spaced y) (hy : y < c.height)
    (hright : area.right ≤ c.width) (hmax : area.right < maxCoord) {spans : List Span} {k : Cell}
    (hk : spansLettering col area.right x spans = some k) :
    (drawSpans c area col y spans).cell? x y = some k := by
  induction spans generalizing c col with
  | nil => cases hk
  | cons s rest ih =>
      rw [drawSpans_cons, Nat.min_eq_left hright]
      rcases Option.or_eq_some_iff.mp hk with hfirst | ⟨-, hrest⟩
      · exact cell?_drawSpans_of_kept (h.kept_of_letterAt hy hright hfirst) area rest
      · rw [putChars_col (.inl hmax)]
        have hextent := extent_putChars c col y s.tone area.right s.text.toList
        obtain ⟨hwidth, hheight⟩ := Prod.mk.inj hextent
        exact ih (h.putChars col s.tone area.right s.text.toList) (by omega) (by omega) hrest

theorem cell?_drawEntry {x y : Nat} {area : Rect} (h : c.Spaced y) (hy : y < c.height)
    (hright : area.right ≤ c.width) (hmax : area.right < maxCoord) {e : Entry} {k : Cell}
    (hk : e.lettering area x = some k) : (drawEntry c area y e).cell? x y = some k :=
  cell?_drawSpans h hy hright hmax hk

/-- An entry leaves other rows as they are, and its own row where it starts two columns further to
the right or more. -/
theorem cell?_drawEntry_left {x y row : Nat} {area : Rect} {e : Entry}
    (h : row = y → x + 1 < e.start area) (d : Canvas) :
    (drawEntry d area row e).cell? x y = d.cell? x y := by
  by_cases hrow : row = y
  · subst hrow
    have hstart := h rfl
    rw [drawEntry_eq]
    exact cell?_drawSpans_of_kept ⟨rfl, by omega, by omega⟩ area e.spans
  · exact (onlyRows_drawEntry d area row e).other x y (by omega)

theorem drawLogRows_eq (c : Canvas) (area : Rect) (y : Nat) (ls : List Log.Line) :
    drawLogRows c area y ls = c.putRows area y (ls.map fun l => (l.text, l.severity.tone)) := by
  induction ls generalizing c y with
  | nil => rfl
  | cons l rest ih => exact ih _ (y + 1)

section

variable {r : Rect} {log : Log.Body}

theorem drawLogPane_eq (hwidth : 2 ≤ r.width) (hheight : 2 ≤ r.height) (c : Canvas)
    (log : Log.Body) :
    drawLogPane c r log =
      if r.inner.isEmpty then c.drawBorder r
      else (c.drawBorder r).putRows r.inner r.inner.y
        ((log.tail r.inner.width r.inner.height).map fun l => (l.text, l.severity.tone)) := by
  have hsize : ¬ (decide (r.width < 2) || decide (r.height < 2)) = true := by
    rw [Bool.or_eq_true, decide_eq_true_eq, decide_eq_true_eq]
    omega
  have hbox : c.drawBox r none = c.drawBorder r := by
    rw [drawBox, if_neg hsize]
  rw [drawLogPane, hbox]
  simp only [drawLogRows_eq]

/-- There is no box on a single row. -/
theorem drawLogPane_eq_self (hheight : r.height < 2) (c : Canvas) (log : Log.Body) :
    drawLogPane c r log = c := by
  have hempty : r.inner.isEmpty = true := by
    have hinner : r.inner.height = 0 := by
      have : r.inner.height = r.height - 2 := rfl
      omega
    rw [Rect.isEmpty, hinner, Bool.or_eq_true]
    exact .inr (decide_eq_true rfl)
  have hsmall : (decide (r.width < 2) || decide (r.height < 2)) = true := by
    rw [Bool.or_eq_true]
    exact .inr (decide_eq_true hheight)
  rw [drawLogPane, drawBox, if_pos hsmall]
  exact if_pos hempty

theorem length_paneRows (hin : r.Within c) (hwidth : 2 ≤ r.width) (hheight : 2 ≤ r.height)
    (log : Log.Body) :
    r.inner.y + ((log.tail r.inner.width r.inner.height).map
      fun l => (l.text, l.severity.tone)).length ≤ r.bottom - 1 := by
  obtain ⟨⟨-, hbottom⟩, -, ⟨hinnery, -, hinnerheight⟩⟩ := hin.edges hwidth hheight
  have hlength := log.length_tail_le r.inner.width r.inner.height
  rw [List.length_map]
  omega

theorem onlyRows_drawLogPane (hin : r.Within c) (hwidth : 2 ≤ r.width) :
    OnlyRows r.y r.bottom c (drawLogPane c r log) := by
  by_cases hheight : 2 ≤ r.height
  · obtain ⟨⟨hright, hbottom⟩, -, ⟨hinnery, -, -⟩⟩ := hin.edges hwidth hheight
    have hborder : OnlyRows r.y r.bottom c (c.drawBorder r) :=
      OnlyRows.drawBorder (by omega) (by omega) c
    have hlength := length_paneRows hin hwidth hheight log
    rw [drawLogPane_eq hwidth hheight]
    split
    · exact hborder
    · exact hborder.trans ((OnlyRows.putRows _ _ _ _).mono (by omega) (by omega))
  · rw [drawLogPane_eq_self (by omega)]
    exact OnlyRows.refl ..

/-- The log does not reach the border of its pane. -/
theorem stands_drawLogPane (hin : r.Within c) (hwidth : 2 ≤ r.width) (hheight : 2 ≤ r.height)
    (hspaced : c.SpacedRows r.y r.bottom) {x y : Nat} {ch : Char} (hxy : r.Contains x y)
    (hch : r.edge? x y = some ch) : (drawLogPane c r log).Stands x y ⟨ch, .border⟩ := by
  obtain ⟨⟨hright, hbottom⟩, ⟨hinnerx, hinnerright, -⟩, ⟨hinnery, hinnerbottom, -⟩⟩ :=
    hin.edges hwidth hheight
  have hsize := hin.right_le
  have hsize' := hin.bottom_le
  have hmax := hin.width_le
  have hstands := hspaced.stands_drawBorder (by omega) (by omega) (by omega) (by omega) hxy hch
  rw [drawLogPane_eq hwidth hheight]
  split
  · exact hstands
  · refine hstands.putRows (by omega) _ fun htop hlow => ?_
    have hlength := length_paneRows hin hwidth hheight log
    by_contra hinside
    have hnone : r.edge? x y = none := by
      rw [Rect.edge?, if_neg (by omega), if_neg (by omega), if_neg (by omega)]
    rw [hnone] at hch
    cases hch

end

/-! ## The whole frame -/

theorem render_eq (f : Frame) (c : Canvas) (log : Log.Body) (hwidth : 0 < c.width)
    (hheight : 0 < c.height) (hmax : c.height ≤ maxCoord) :
    f.render c c.area log =
      if bodyTop c.height f.entries < bodyBottom c.height f.entries ∧ f.pane = .log then
        drawLogPane (drawEntries c f.entries) ⟨0, bodyTop c.height f.entries, c.width,
          bodyBottom c.height f.entries - bodyTop c.height f.entries⟩ log
      else drawEntries c f.entries := by
  have hstacked : Stacked c f.entries
      (f.entries.foldl (Progress.place c.area) ⟨c, .all c.area.y, .all c.area.bottom⟩) := by
    rw [area_bottom hmax]
    exact (stacked_start c).foldl_place hmax f.entries
  have hempty : c.area.isEmpty = false := by
    rw [Rect.isEmpty, Bool.or_eq_false_iff, decide_eq_false_iff_not, decide_eq_false_iff_not]
    exact ⟨Nat.ne_of_gt hwidth, Nat.ne_of_gt hheight⟩
  rw [render, hempty, if_neg Bool.false_ne_true]
  simp only [hstacked.bodyRows_eq hmax, hstacked.canvas, Bool.and_eq_true, decide_eq_true_eq]
  rfl

/-- No entry has a row of the body, nor the row above or below it. -/
theorem apart_of_mem_seats (hbody : bodyTop height es < bodyBottom height es) {s : Nat × Entry}
    (h : s ∈ seats height es) : s.1 + 1 < bodyTop height es ∨ bodyBottom height es < s.1 := by
  obtain ⟨hlt, hrow⟩ := row_of_mem_seats h
  rw [bodyTop, bodyBottom] at *
  split at hrow
  · left
    rw [if_pos (by omega)]
    omega
  · right
    have hdepth : 0 < depth height false es := by omega
    rw [if_pos hdepth] at hbody ⊢
    omega

theorem onlyRows_drawEntries (c : Canvas) (es : List Entry) :
    OnlyRows 0 c.height c (drawEntries c es) := by
  refine OnlyRows.foldl (fun d s hs => ?_) c
  have hlt := (row_of_mem_seats hs).1
  exact (onlyRows_drawEntry d c.area s.1 s.2).mono (Nat.zero_le _) hlt

theorem cell?_foldl_drawEntry {area : Rect} {x y : Nat} {ss : List (Nat × Entry)}
    (hss : LeftOf area x y ss) (d : Canvas) :
    (ss.foldl (fun d s => drawEntry d area s.1 s.2) d).cell? x y = d.cell? x y := by
  induction ss generalizing d with
  | nil => rfl
  | cons s ss ih =>
      obtain ⟨hfirst, hrest⟩ := List.forall_mem_cons.mp hss
      rw [List.foldl_cons, ih hrest, cell?_drawEntry_left hfirst]

theorem spaced_foldl_drawEntry {y : Nat} (h : c.Spaced y) (area : Rect) (ss : List (Nat × Entry)) :
    (ss.foldl (fun d s => drawEntry d area s.1 s.2) c).Spaced y := by
  induction ss generalizing c with
  | nil => exact h
  | cons s ss ih => exact ih (spaced_drawEntry h area s.1 s.2)

/-- An entry is shown on its row as far as nothing that comes later there starts left of it. -/
theorem cell?_drawEntries_of_lettering (hmax : c.width < maxCoord)
    {before after : List (Nat × Entry)} {s : Nat × Entry}
    (hseats : seats c.height es = before ++ s :: after) (hspaced : c.Spaced s.1)
    {x : Nat} {k : Cell} (hk : s.2.lettering c.area x = some k)
    (hleft : LeftOf c.area x s.1 after) : (drawEntries c es).cell? x s.1 = some k := by
  have hright : c.area.right = c.width := area_right (by omega)
  have hrow : s.1 < c.height := (row_of_mem_seats (hseats ▸ List.mem_append_cons_self)).1
  have hbefore : (before.foldl (fun d s => drawEntry d c.area s.1 s.2) c).extent = c.extent :=
    extent_foldl (fun d s => (onlyRows_drawEntry d c.area s.1 s.2).extent_eq) before c
  obtain ⟨hwidth, hheight⟩ := Prod.mk.inj hbefore
  rw [drawEntries, hseats, List.foldl_append, List.foldl_cons, cell?_foldl_drawEntry hleft]
  exact cell?_drawEntry (spaced_foldl_drawEntry hspaced c.area before) (by omega) (by omega)
    (by omega) hk

/-- The entries leave the body and the rows next to it as they are. -/
theorem cell?_drawEntries (hbody : bodyTop c.height es < bodyBottom c.height es) (x : Nat) {y : Nat}
    (htop : bodyTop c.height es ≤ y + 1) (hlow : y ≤ bodyBottom c.height es) :
    (drawEntries c es).cell? x y = c.cell? x y := by
  refine cell?_foldl_drawEntry (fun s hs hrow => ?_) c
  have := apart_of_mem_seats hbody hs
  omega

theorem spacedRows_drawEntries (hbody : bodyTop c.height es < bodyBottom c.height es)
    (h : c.SpacedRows (bodyTop c.height es) (bodyBottom c.height es)) :
    (drawEntries c es).SpacedRows (bodyTop c.height es) (bodyBottom c.height es) := by
  intro y htop hy
  refine (h y htop hy).of_imp fun x hmark => ?_
  rwa [isMarkAt, cell?_drawEntries hbody x (by omega) (by omega)] at hmark

/-- The region of the pane. -/
def body (c : Canvas) (es : List Entry) : Rect :=
  ⟨0, bodyTop c.height es, c.width, bodyBottom c.height es - bodyTop c.height es⟩

theorem bodyBottom_le (height : Nat) (es : List Entry) : bodyBottom height es ≤ height := by
  unfold bodyBottom
  split <;> omega

theorem within_body (hmax : c.width ≤ maxCoord) (hmax' : c.height ≤ maxCoord)
    (hbody : bodyTop c.height es < bodyBottom c.height es) :
    (body c es).Within (drawEntries c es) ∧ (body c es).bottom = bodyBottom c.height es := by
  have hlow := bodyBottom_le c.height es
  have hextent := onlyRows_drawEntries c es
  have hsum : bodyTop c.height es + (bodyBottom c.height es - bodyTop c.height es) =
      bodyBottom c.height es := by omega
  refine ⟨⟨?_, ?_, ?_, ?_⟩, ?_⟩
  · rw [hextent.width_eq]
    exact Nat.le_of_eq (Nat.zero_add _)
  · rw [hextent.height_eq]
    exact Nat.le_trans (Nat.le_of_eq hsum) hlow
  · rwa [hextent.width_eq]
  · rwa [hextent.height_eq]
  · exact (addCoord_eq (hsum ▸ Nat.le_trans hlow hmax')).trans hsum

/-- The pane changes the rows of the body only. -/
theorem onlyRows_render (f : Frame) (log : Log.Body) (hwidth : 2 ≤ c.width)
    (hmax : c.width ≤ maxCoord) (hheight : 1 ≤ c.height) (hmax' : c.height ≤ maxCoord) :
    OnlyRows (bodyTop c.height f.entries) (bodyBottom c.height f.entries)
      (drawEntries c f.entries) (f.render c c.area log) := by
  rw [render_eq f c log (by omega) (by omega) hmax']
  split
  · rename_i hshown
    obtain ⟨hin, hlow⟩ := within_body hmax hmax' hshown.1
    exact (onlyRows_drawLogPane hin hwidth).mono (Nat.le_refl _) (Nat.le_of_eq hlow)
  · exact OnlyRows.refl ..

/-- Header entry number `k` of an alignment is drawn on row `k` and footer entry number `k` on row
`k` from below.  The pane has the rows that are left between them but for one below the header and
one above the footer, over the full width, and changes no other.  Its border is whole unless two
marks stand side by side on these rows, which no drawing leaves.  On a canvas below the widest an
entry shows on its row the characters that have room, all of them if it is the last one there, and
else those left of the entries that come later. -/
theorem render_layout (f : Frame) (c : Canvas) (log : Log.Body) (hwidth : 2 ≤ c.width)
    (hmax : c.width ≤ maxCoord) (hheight : 1 ≤ c.height) (hmax' : c.height ≤ maxCoord) :
    let top := bodyTop c.height f.entries
    let bottom := bodyBottom c.height f.entries
    let bare := { f with pane := .empty }.render c c.area log
    let full := { f with pane := .log }.render c c.area log
    bare = drawEntries c f.entries ∧
    (∀ s ∈ seats c.height f.entries, s.1 < c.height ∧
      (∀ d, OnlyRows s.1 (s.1 + 1) d (drawEntry d c.area s.1 s.2)) ∧
      (top < bottom → s.1 + 1 < top ∨ bottom < s.1)) ∧
    OnlyRows top bottom bare full ∧
    (bottom ≤ top → full = bare) ∧
    (top + 2 ≤ bottom →
      full = drawLogPane bare ⟨0, top, c.width, bottom - top⟩ log ∧
      (c.SpacedRows top bottom → ∀ x y ch, x < c.width → top ≤ y → y < bottom →
        Rect.edge? ⟨0, top, c.width, bottom - top⟩ x y = some ch →
        full.cell? x y = some ⟨ch, .border⟩)) ∧
    (c.width < maxCoord → ∀ before s after, seats c.height f.entries = before ++ s :: after →
      c.Spaced s.1 → ∀ x k, s.2.lettering c.area x = some k → LeftOf c.area x s.1 after →
        bare.cell? x s.1 = some k ∧ full.cell? x s.1 = some k) := by
  intro top bottom bare full
  have hbare : bare = drawEntries c f.entries := by
    rw [show bare = _ from render_eq _ c log (by omega) (by omega) (by omega), if_neg]
    rintro ⟨-, hpane⟩
    cases hpane
  have hfull : full = if top < bottom then drawLogPane bare (body c f.entries) log else bare := by
    rw [hbare, show full = _ from render_eq _ c log (by omega) (by omega) (by omega)]
    simp only [and_true]
    rfl
  have hrows : OnlyRows top bottom bare full := by
    rw [hbare]
    exact onlyRows_render { f with pane := .log } log hwidth hmax hheight hmax'
  refine ⟨hbare, ?_, hrows, ?_, ?_, ?_⟩
  · intro s hs
    exact ⟨(row_of_mem_seats hs).1, fun d => onlyRows_drawEntry d c.area s.1 s.2,
      fun hbody => apart_of_mem_seats hbody hs⟩
  · intro hnone
    rw [hfull, if_neg (by omega)]
  · intro hroom
    have hbody : top < bottom := by omega
    obtain ⟨hin, hlow⟩ := within_body hmax (by omega) hbody
    rw [hfull, if_pos hbody]
    refine ⟨rfl, fun hspaced x y ch hx htop hy hch => ?_⟩
    have hspaced' := spacedRows_drawEntries hbody hspaced
    have hright : (body c f.entries).right = c.width := area_right hmax
    rw [hbare]
    have hrows : 2 ≤ (body c f.entries).height := show 2 ≤ bottom - top by omega
    exact (stands_drawLogPane hin hwidth hrows (hlow ▸ hspaced')
      ⟨Nat.zero_le x, hright ▸ hx, htop, hlow ▸ hy⟩ hch).cell
  · intro hnarrow before s after hseats hspaced x k hk hleft
    have hshown := cell?_drawEntries_of_lettering hnarrow hseats hspaced hk hleft
    rw [← hbare] at hshown
    refine ⟨hshown, ?_⟩
    by_cases hbody : top < bottom
    · have hapart : s.1 + 1 < top ∨ bottom < s.1 :=
        apart_of_mem_seats hbody (hseats ▸ List.mem_append_cons_self)
      rw [hrows.other x s.1 (by omega), hshown]
    · rw [hfull, if_neg hbody, hshown]

/-- Two header entries share the first row and two footer entries are stacked. -/
def busy : Frame where
  entries := [⟨[⟨"Product 1.0", .normal⟩], true, .left⟩, ⟨[⟨"12:00", .normal⟩], true, .right⟩,
    ⟨[⟨"lower", .label⟩], false, .left⟩, ⟨[⟨"upper", .label⟩], false, .left⟩]
  pane := .empty

theorem render_layout_busy :
    2 ≤ (blank 20 9).width ∧ (blank 20 9).width ≤ maxCoord ∧ 1 ≤ (blank 20 9).height ∧
    (blank 20 9).height ≤ maxCoord ∧ (seats 9 busy.entries).map Prod.fst = [0, 0, 8, 7] ∧
    OnlyRows 2 6 (busy.render (blank 20 9) (blank 20 9).area (.empty 5))
      ({ busy with pane := .log }.render (blank 20 9) (blank 20 9).area (.empty 5)) ∧
    ({ busy with pane := .log }.render (blank 20 9) (blank 20 9).area (.empty 5)).cell? 19 5 =
      some ⟨'┘', .border⟩ ∧
    ({ busy with pane := .log }.render (blank 20 9) (blank 20 9).area (.empty 5)).cell? 10 0 =
      some ⟨'0', .normal⟩ ∧
    ({ busy with pane := .log }.render (blank 20 9) (blank 20 9).area (.empty 5)).cell? 4 8 =
      some ⟨'r', .label⟩ := by
  refine ⟨by decide, by decide, by decide, by decide, by decide, ?_⟩
  obtain ⟨-, -, hrows, -, hbox, hletters⟩ :=
    render_layout busy (blank 20 9) (.empty 5) (by decide) (by decide) (by decide) (by decide)
  have hspaced : ∀ y, (blank 20 9).Spaced y := (aligned_blank 20 9).spaced
  refine ⟨hrows, ?_, ?_, ?_⟩
  · exact (hbox (by decide)).2 (fun y _ _ => hspaced y) 19 5 '┘' (by decide) (by decide)
      (by decide) (by decide)
  · have hseats : seats (blank 20 9).height busy.entries = [] ++ (0, busy.entries[0]) ::
      [(0, busy.entries[1]), (8, busy.entries[2]), (7, busy.entries[3])] := by decide
    exact (hletters (by decide) _ _ _ hseats (hspaced 0) 10 _ (by decide +kernel)
      (by decide +kernel)).2
  · have hseats : seats (blank 20 9).height busy.entries =
      [(0, busy.entries[0]), (0, busy.entries[1])] ++ (8, busy.entries[2]) ::
        [(7, busy.entries[3])] := by decide
    exact (hletters (by decide) _ _ _ hseats (hspaced 8) 4 _ (by decide +kernel)
      (by decide +kernel)).2

end StatusBoard.Frame
