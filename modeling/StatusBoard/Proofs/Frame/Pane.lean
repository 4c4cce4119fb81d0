import StatusBoard.Proofs.Frame.Stacking

/-!
What the pane shows of the log.

On a fresh canvas nothing is below the pane, so its rows are the end of the log and blanks.
-/

namespace StatusBoard.Frame

open Text Canvas

variable {c : Canvas} {r : Rect} {log : Log.Body}

/-- What a pane shows of a log: the rows of its end, cut at the right edge of the interior and each in
the tone of its severity, blanks everywhere else inside, and a border around them. -/
structure ShowsEnd (d : Canvas) (pane : Rect) (log : Log.Body) : Prop where
  rows : ∀ i x, i < pane.inner.height → pane.inner.x ≤ x → x < pane.inner.right →
    d.cell? x (pane.inner.y + i) =
      ((log.tail pane.inner.width pane.inner.height)[i]?.bind fun l =>
        lettering l.text l.severity.tone pane.inner.x pane.inner.right x).or (some Cell.blank)
  border : ∀ x y ch, pane.Contains x y → pane.edge? x y = some ch →
    d.cell? x y = some ⟨ch, .border⟩

/-- On blanks nothing but the log is seen inside the pane. -/
theorem cell?_drawLogPane (hin : r.Within c) (hwidth : 3 ≤ r.width) (hheight : 3 ≤ r.height)
    (hblank : ∀ x y, r.Contains x y → c.cell? x y = some Cell.blank) {i x : Nat}
    (hi : i < r.inner.height) (hx : r.inner.x ≤ x) (hx' : x < r.inner.right) :
    (drawLogPane c r log).cell? x (r.inner.y + i) =
      ((log.tail r.inner.width r.inner.height)[i]?.bind fun l =>
        lettering l.text l.severity.tone r.inner.x r.inner.right x).or (some Cell.blank) := by
  obtain ⟨⟨hright, hbottom⟩, ⟨hinnerx, hinnerright, hinnerwidth⟩,
    ⟨hinnery, hinnerbottom, hinnerheight⟩⟩ := hin.edges (by omega) (by omega)
  have hsize := hin.right_le
  have hsize' := hin.bottom_le
  have hmax := hin.width_le
  obtain ⟨hfree, hboxed⟩ := cell?_drawBorder_of_blank (by omega) (by omega) (by omega) (by omega)
    hblank
  have hopen : ¬ r.inner.isEmpty = true := by
    rw [Rect.isEmpty, Bool.or_eq_true, decide_eq_true_eq, decide_eq_true_eq]
    omega
  have hplain : (c.drawBorder r).cell? x (r.inner.y + i) = some Cell.blank := by
    rw [hboxed x _ ⟨by omega, by omega, by omega, by omega⟩,
      Rect.boxed_inside (by omega) (by omega) (by omega) (by omega)]
  have hlength := length_paneRows hin (by omega) (by omega) log
  have hfree' : (c.drawBorder r).Free r.inner.x (r.inner.right + 1) r.inner.y
      (r.inner.y + ((log.tail r.inner.width r.inner.height).map
        fun l => (l.text, l.severity.tone)).length) :=
    hfree.mono (by omega) (by omega) (by omega) (by omega)
  rw [drawLogPane_eq (by omega) (by omega), if_neg hopen, hfree'.cell?_putRows (by omega), hplain,
    List.getElem?_map, Option.bind_map]
  rfl

theorem showsEnd_render {f : Frame} {w h : Nat} (hpane : f.pane = .log) (hw : w ≤ maxCoord)
    (hh : h ≤ maxCoord) (log : Log.Body) (hwidth : 0 < (body (blank w h) f.entries).inner.width)
    (hheight : 0 < (body (blank w h) f.entries).inner.height) :
    ShowsEnd (f.render (blank w h) (blank w h).area log) (body (blank w h) f.entries) log := by
  have hcolumns : (body (blank w h) f.entries).inner.width = w - 2 := rfl
  have hrows : (body (blank w h) f.entries).inner.height =
      bodyBottom h f.entries - bodyTop h f.entries - 2 := rfl
  have hlow := bodyBottom_le h f.entries
  have hbody : bodyTop h f.entries < bodyBottom h f.entries := by omega
  have hroom : 3 ≤ (body (blank w h) f.entries).width := show 3 ≤ w by omega
  have hroom' : 3 ≤ (body (blank w h) f.entries).height :=
    show 3 ≤ bodyBottom h f.entries - bodyTop h f.entries by omega
  obtain ⟨hin, hbottom⟩ : (body (blank w h) f.entries).Within (drawEntries (blank w h) f.entries) ∧
      (body (blank w h) f.entries).bottom = bodyBottom h f.entries := within_body hw hh hbody
  have hright : (body (blank w h) f.entries).right = w := area_right (c := blank w h) hw
  have hblank : ∀ x y, (body (blank w h) f.entries).Contains x y →
      (drawEntries (blank w h) f.entries).cell? x y = some Cell.blank := by
    rintro x y ⟨-, hx, htop, hy⟩
    rw [hright] at hx
    rw [hbottom] at hy
    rw [cell?_drawEntries hbody x (Nat.le_succ_of_le htop) (Nat.le_of_lt hy)]
    exact cell?_blank hx (Nat.lt_of_lt_of_le hy hlow)
  rw [render_eq f (blank w h) log (show 0 < w by omega) (show 0 < h by omega) hh,
    if_pos ⟨hbody, hpane⟩]
  refine ⟨fun i x hi hx hx' => cell?_drawLogPane hin hroom hroom' hblank hi hx hx', ?_⟩
  intro x y ch hxy hch
  have hspaced := spacedRows_drawEntries hbody fun y _ _ => (aligned_blank w h).spaced y
  exact (stands_drawLogPane hin (by omega) (by omega) (hbottom ▸ hspaced) hxy hch).cell

/-- The rows taken from the log are the last of its wrapped rows, each in the severity of its line,
and on a fresh canvas they are what the pane shows, inside a border that no text reaches. -/
theorem pane_shows_end_of_log (log : Log.Body) :
    (∀ width rows, log.tail width rows =
      (log.wrapped width).drop ((log.wrapped width).length - rows)) ∧
    ∀ (f : Frame) (w h : Nat), f.pane = .log → w ≤ maxCoord → h ≤ maxCoord →
      0 < (body (blank w h) f.entries).inner.width →
      0 < (body (blank w h) f.entries).inner.height →
      ShowsEnd (f.render (blank w h) (blank w h).area log) (body (blank w h) f.entries) log :=
  ⟨log.tail_eq, fun _ _ _ hpane hw hh hwidth hheight =>
    showsEnd_render hpane hw hh log hwidth hheight⟩

/-- A line of three rows, of which the pane has room for two. -/
def longLine : Log.Body := (Log.Body.empty 5).append ⟨.warning, "one two three"⟩

theorem pane_shows_end_of_long_line :
    (Frame.mk [] .log).pane = .log ∧ 7 ≤ maxCoord ∧ 4 ≤ maxCoord ∧
    0 < (body (blank 7 4) []).inner.width ∧ 0 < (body (blank 7 4) []).inner.height ∧
    (longLine.tail 5 2).map Log.Line.text = ["two", "three"] ∧
    ((Frame.mk [] .log).render (blank 7 4) (blank 7 4).area longLine).cell? 1 1 =
      some ⟨'t', .warning⟩ ∧
    ((Frame.mk [] .log).render (blank 7 4) (blank 7 4).area longLine).cell? 4 1 =
      some Cell.blank := by
  refine ⟨rfl, by decide, by decide, by decide, by decide, by decide +kernel, ?_⟩
  obtain ⟨hrows, -⟩ := (pane_shows_end_of_log longLine).2 (Frame.mk [] .log) 7 4 rfl (by decide)
    (by decide) (by decide) (by decide)
  constructor
  · exact (hrows 0 1 (by decide) (by decide) (by decide)).trans (by decide +kernel)
  · exact (hrows 0 4 (by decide) (by decide) (by decide)).trans (by decide +kernel)

end StatusBoard.Frame
