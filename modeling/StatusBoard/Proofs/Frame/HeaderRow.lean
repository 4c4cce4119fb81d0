import StatusBoard.Frame.Facts
import StatusBoard.Proofs.Board.Fitting
import StatusBoard.Proofs.Frame.Stacking
import Mathlib.Data.List.Induction

/-!
The header of a rebuilt frame, and when the footer reaches it.

The two header entries share the first row.  The footer has as many lines as the values need at the
width of the screen, and is stacked up to the first row.  So the header has its row for itself only
if there are more rows than footer lines; otherwise the footer is drawn over it.
-/

namespace StatusBoard.Frame

open Canvas

/-! ## The entries of the facts -/

namespace Facts

/-- The product and its release, on the left. -/
def label (d : Facts) : Entry := ⟨[⟨d.product ++ " " ++ d.version, .normal⟩], true, .left⟩

/-- The time, on the right. -/
def clock (d : Facts) : Entry := ⟨[⟨Calendar.stamp d.now, .normal⟩], true, .right⟩

/-- The lines of the footer, from below. -/
def footer (d : Facts) (width : Nat) : List FooterLine :=
  wrapFooter addressesLabel (", ".intercalate d.addresses) width ++
    wrapFooter applicationsLabel (", ".intercalate d.applications) width

/-- The header entries, and an entry for each of some footer lines. -/
def withFooter (d : Facts) (lines : List FooterLine) : List Entry :=
  [d.label, d.clock] ++ lines.map FooterLine.entry

theorem entries_eq (d : Facts) (width : Nat) : d.entries width = d.withFooter (d.footer width) := by
  rw [withFooter, footer, List.map_append, ← List.append_assoc]
  rfl

theorem withFooter_concat (d : Facts) (lines : List FooterLine) (line : FooterLine) :
    d.withFooter (lines ++ [line]) = d.withFooter lines ++ [line.entry] := by
  rw [withFooter, List.map_append, ← List.append_assoc]
  rfl

theorem tally_footer (d : Facts) (lines : List FooterLine) :
    tally false .left (d.withFooter lines) = lines.length := by
  have hheader : tally false .left [d.label, d.clock] = 0 := rfl
  rw [tally, withFooter, List.countP_append, ← tally, hheader, Nat.zero_add, List.countP_map]
  exact List.countP_eq_length.mpr fun _ _ => rfl

/-- The header entries have the first row, and the footer lines theirs from below. -/
theorem seats_entries (d : Facts) {height : Nat} (hheight : 0 < height) (lines : List FooterLine) :
    seats height (d.withFooter lines) =
      [(0, d.label), (0, d.clock)] ++
        (lines.take height).zipIdx.map fun s => (height - 1 - s.2, s.1.entry) := by
  induction lines using List.reverseRecOn with
  | nil =>
      have hlabel : seat height [] d.label = some 0 := if_neg (Nat.not_le.mpr hheight)
      have hclock : seat height [d.label] d.clock = some 0 := if_neg (Nat.not_le.mpr hheight)
      have hfirst : seats height [d.label] = [(0, d.label)] := by
        refine (seats_concat height [] d.label).trans ?_
        rw [hlabel]
        rfl
      rw [List.take_nil]
      refine (seats_concat height [d.label] d.clock).trans ?_
      rw [hfirst, hclock]
      rfl
  | append_singleton lines line ih =>
      have hseat : seat height (d.withFooter lines) line.entry =
          if height ≤ lines.length then none else some (height - 1 - lines.length) := by
        rw [← tally_footer d lines]
        rfl
      rw [withFooter_concat, seats_concat]
      rw [ih, hseat, List.append_assoc]
      congr 1
      split
      · rename_i hfull
        rw [List.take_append_of_le_length hfull]
        exact List.append_nil _
      · rename_i hroom
        rw [List.take_of_length_le (by omega), List.take_of_length_le (by simp; omega),
          List.zipIdx_append, List.map_append, Nat.zero_add]
        rfl

end Facts

section

variable (d : Facts) {c : Canvas} (hheight : 0 < c.height)

/-- The header entries on the first row. -/
def Facts.header (d : Facts) (c : Canvas) : Canvas :=
  drawEntry (drawEntry c c.area 0 d.label) c.area 0 d.clock

include hheight

theorem bodyTop_entries (lines : List FooterLine) :
    0 < bodyTop c.height (d.withFooter lines) := by
  have hfirst : (d.withFooter lines)[0]? = some d.label := rfl
  have hlt : _ < tally true .left _ := tally_take_lt hfirst
  have hdepth : min c.height _ ≤ depth c.height true _ :=
    tally_le_depth true .left (d.withFooter lines)
  rw [bodyTop, if_pos (by omega)]
  omega

theorem drawEntries_eq (lines : List FooterLine) :
    drawEntries c (d.withFooter lines) =
      ((lines.take c.height).zipIdx.map fun s => (c.height - 1 - s.2, s.1.entry)).foldl
        (fun e s => drawEntry e c.area s.1 s.2) (d.header c) := by
  rw [drawEntries, d.seats_entries hheight, List.foldl_append]
  rfl

omit hheight in
/-- Footer lines that do not reach the first row leave the header as it is. -/
theorem onlyRows_footer {lines : List FooterLine} (hlines : lines.length < c.height) (e : Canvas) :
    OnlyRows 1 c.height e
      ((lines.zipIdx.map fun s => (c.height - 1 - s.2, s.1.entry)).foldl
        (fun e s => drawEntry e c.area s.1 s.2) e) := by
  refine OnlyRows.foldl (fun e s hs => ?_) e
  obtain ⟨⟨line, k⟩, hmem, rfl⟩ := List.mem_map.mp hs
  have hlt := List.snd_lt_of_mem_zipIdx hmem
  exact (onlyRows_drawEntry e c.area _ _).mono (by omega) (by omega)

end

theorem sameRow_drawSpans {c d : Canvas} {y : Nat} (h : SameRow c d y) (area : Rect) (col : Nat)
    (spans : List Span) : SameRow (drawSpans c area col y spans) (drawSpans d area col y spans) y := by
  induction spans generalizing c d col with
  | nil => exact h
  | cons s rest ih =>
      obtain ⟨hrow, hcol⟩ := h.putText col s.text s.tone area.right
      rw [drawSpans, drawSpans]
      simp only [hcol]
      exact ih hrow _

/-- What an entry looks like on a row depends on that row alone. -/
theorem sameRow_drawEntry {c d : Canvas} {y : Nat} (h : SameRow c d y) (area : Rect) (e : Entry) :
    SameRow (drawEntry c area y e) (drawEntry d area y e) y := sameRow_drawSpans h area _ e.spans

/-- The header, and over it the footer line that reaches the first row. -/
def Facts.firstRow (d : Facts) (c : Canvas) (lines : List FooterLine) : Canvas :=
  lines[c.height - 1]?.elim (d.header c) fun line => drawEntry (d.header c) c.area 0 line.entry

theorem sameRow_drawEntries (d : Facts) {c : Canvas} (hheight : 0 < c.height)
    (lines : List FooterLine) :
    SameRow (d.firstRow c lines) (drawEntries c (d.withFooter lines)) 0 := by
  rw [drawEntries_eq d hheight, Facts.firstRow]
  cases hline : lines[c.height - 1]? with
  | none =>
      have hfew := List.getElem?_eq_none_iff.mp hline
      rw [List.take_of_length_le (by omega)]
      exact (onlyRows_footer (by omega) (d.header c)).sameRow (.inl Nat.zero_lt_one)
  | some line =>
      obtain ⟨hlt, rfl⟩ := List.getElem?_eq_some_iff.mp hline
      have htake : lines.take c.height = lines.take (c.height - 1) ++ [lines[c.height - 1]] := by
        rw [← List.take_succ_eq_append_getElem hlt, Nat.sub_add_cancel hheight]
      have hlength : (lines.take (c.height - 1)).length = c.height - 1 := by
        rw [List.length_take]
        omega
      have hupper : (lines.take (c.height - 1)).length < c.height := by omega
      have hrow := (onlyRows_footer hupper (d.header c)).sameRow (.inl Nat.zero_lt_one)
      rw [htake, List.zipIdx_append, List.map_append, List.foldl_append, hlength]
      simp only [List.zipIdx_singleton, List.map_cons, List.map_nil, List.foldl_cons,
        List.foldl_nil, Nat.zero_add, Nat.sub_self]
      exact sameRow_drawEntry hrow c.area lines[c.height - 1].entry

theorem sameRow_render (f : Frame) (d : Facts) {c : Canvas} (log : Log.Body)
    (hwidth : 2 ≤ c.width) (hmax : c.width ≤ maxCoord) (hheight : 1 ≤ c.height)
    (hmax' : c.height ≤ maxCoord) :
    SameRow (d.firstRow c (d.footer c.width)) ((f.rebuild d c.width).render c c.area log) 0 := by
  have hrender := onlyRows_render (f.rebuild d c.width) log hwidth hmax hheight hmax'
  rw [rebuild_eq, Facts.entries_eq] at hrender ⊢
  exact (sameRow_drawEntries d hheight _).trans
    (hrender.sameRow (.inl (bodyTop_entries d hheight _)))

/-- A header entry and a footer entry have the same row. -/
def Collide (height : Nat) (es : List Entry) : Prop :=
  ∃ s ∈ seats height es, ∃ s' ∈ seats height es,
    s.2.header = true ∧ s'.2.header = false ∧ s.1 = s'.1

theorem collide_withFooter_iff (d : Facts) {height : Nat} (hheight : 0 < height)
    (lines : List FooterLine) :
    Collide height (d.withFooter lines) ↔ height ≤ lines.length := by
  rw [Collide, d.seats_entries hheight]
  constructor
  · rintro ⟨s, hs, s', hs', hheader, hfooter, hrow⟩
    have hzero : s.1 = 0 := by
      rcases List.mem_append.mp hs with hs | hs
      · rcases List.mem_cons.mp hs with rfl | hs
        · rfl
        · rw [List.mem_singleton.mp hs]
      · obtain ⟨⟨line, k⟩, -, rfl⟩ := List.mem_map.mp hs
        cases hheader
    rcases List.mem_append.mp hs' with hs' | hs'
    · rcases List.mem_cons.mp hs' with rfl | hs'
      · cases hfooter
      · rw [List.mem_singleton.mp hs'] at hfooter
        cases hfooter
    · obtain ⟨⟨line, k⟩, hmem, rfl⟩ := List.mem_map.mp hs'
      have hlt := List.snd_lt_of_mem_zipIdx hmem
      rw [List.length_take] at hlt
      simp only at hrow
      omega
  · intro hlines
    have hlast : (lines.take height)[height - 1]? = some lines[height - 1] := by
      rw [List.getElem?_take_of_lt (by omega), List.getElem?_eq_getElem]
    refine ⟨(0, d.label), List.mem_append_left _ List.mem_cons_self,
      (height - 1 - (height - 1), lines[height - 1].entry), ?_, rfl, rfl, by simp⟩
    refine List.mem_append_right _ (List.mem_map.mpr ⟨(lines[height - 1], height - 1), ?_, rfl⟩)
    exact List.mk_mem_zipIdx_iff_getElem?.mpr hlast

/-- A footer line is put on the row of the header exactly if there are as many footer lines as rows
on the screen.  If there are fewer, the first row holds the product, its release and the time, and
nothing else; if there are as many, the last line that has a row is drawn over them. -/
theorem header_meets_footer_iff (f : Frame) (d : Facts) (c : Canvas) (log : Log.Body)
    (hwidth : 20 ≤ c.width) (hmax : c.width ≤ maxCoord) (hheight : 10 ≤ c.height)
    (hmax' : c.height ≤ maxCoord) :
    (Collide c.height (f.rebuild d c.width).entries ↔
      c.height ≤ (d.footer c.width).length) ∧
    ((d.footer c.width).length < c.height → ∀ x,
      ((f.rebuild d c.width).render c c.area log).cell? x 0 = (d.header c).cell? x 0) ∧
    ∀ line, (d.footer c.width)[c.height - 1]? = some line → ∀ x,
      ((f.rebuild d c.width).render c c.area log).cell? x 0 =
        (drawEntry (d.header c) c.area 0 line.entry).cell? x 0 := by
  have hfirst := sameRow_render f d log (by omega) hmax (by omega) hmax'
  refine ⟨?_, fun hlines x => ?_, fun line hline x => ?_⟩
  · rw [rebuild_eq, Facts.entries_eq]
    exact collide_withFooter_iff d (by omega) _
  · rw [hfirst.cell, Facts.firstRow, List.getElem?_eq_none (by omega)]
    rfl
  · rw [hfirst.cell, Facts.firstRow, hline]
    rfl

def quiet : Facts := ⟨"P", "1", 0, ["10.0.0.5/24"], []⟩

/-- Three footer lines leave the header alone. -/
theorem header_apart_quiet :
    20 ≤ (blank 20 10).width ∧ (blank 20 10).width ≤ maxCoord ∧ 10 ≤ (blank 20 10).height ∧
    (blank 20 10).height ≤ maxCoord ∧ (quiet.footer 20).length = 3 ∧
    ¬ Collide 10 (empty.rebuild quiet 20).entries ∧
    ∀ x, ((empty.rebuild quiet 20).render (blank 20 10) (blank 20 10).area (.empty 5)).cell? x 0 =
      (quiet.header (blank 20 10)).cell? x 0 := by
  have hlines : (quiet.footer 20).length = 3 := by decide +kernel
  obtain ⟨hmeets, hfirst, -⟩ := header_meets_footer_iff .empty quiet (blank 20 10) (.empty 5)
    (by decide) (by decide) (by decide) (by decide)
  refine ⟨by decide, by decide, by decide, by decide, hlines, fun h => ?_, hfirst ?_⟩
  · have hfull : 10 ≤ (quiet.footer 20).length := hmeets.mp h
    omega
  · change (quiet.footer 20).length < 10
    omega

def crowded : Facts := ⟨"P", "1", 0, List.replicate 8 "10.0.100.100/24", []⟩

/-- Ten footer lines on ten rows: the uppermost is drawn over the product and most of the time. -/
theorem header_overwritten_crowded :
    Collide 10 (empty.rebuild crowded 30).entries ∧
    ((empty.rebuild crowded 30).render (blank 30 10) (blank 30 10).area (.empty 5)).rowText 0 =
      "Installed application(s):  UTC" ∧
    (crowded.header (blank 30 10)).rowText 0 = "P 1       1970-01-01 00:00 UTC" := by
  have hline : (crowded.footer 30)[9]? = some ⟨some applicationsLabel, ""⟩ := by decide +kernel
  have hrow := sameRow_render empty crowded (c := blank 30 10) (.empty 5) (by decide) (by decide)
    (by decide) (by decide)
  have hfirst : crowded.firstRow (blank 30 10) (crowded.footer 30) =
      drawEntry (crowded.header (blank 30 10)) (blank 30 10).area 0
        (FooterLine.mk (some applicationsLabel) "").entry := by
    rw [Facts.firstRow, height_blank, show 10 - 1 = 9 from rfl, hline, Option.elim_some]
  refine ⟨?_, ?_, by decide +kernel⟩
  · rw [rebuild_eq, Facts.entries_eq]
    exact (collide_withFooter_iff crowded (by decide) _).mpr (List.getElem?_eq_some_iff.mp hline).1
  · rw [width_blank, hfirst] at hrow
    rw [hrow.rowText_eq (by decide +kernel)]
    decide +kernel

end StatusBoard.Frame
