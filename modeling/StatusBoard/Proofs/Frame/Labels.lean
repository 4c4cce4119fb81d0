import StatusBoard.Proofs.Config.Reloading
import StatusBoard.Proofs.Frame.Footing
import StatusBoard.Proofs.Frame.HeaderRow

/-!
The labels of the footer on a screen that a configuration may ask for.

A label stands on its first line with a colon, and is never broken.  The narrowest screen that is
accepted has room for the label of the addresses, but not for that of the applications, which is
then cut at the right edge.
-/

namespace StatusBoard

open Text

/-! ## Narrow texts -/

theorem narrow_of_all {cs : List Char} (h : (cs.all fun ch => columns ch == 1) = true) :
    ∀ ch ∈ cs, columns ch = 1 :=
  fun ch hch => beq_iff_eq.mp (List.all_eq_true.mp h ch hch)

namespace Frame

open Canvas

/-! ## The lines of the footer -/

/-- A line has room, or is a single word. -/
def FitsOrWord (width : Nat) (line : String) : Prop :=
  displayWidth line ≤ width ∨ ∀ ch ∈ line.toList, isBlank ch = false

theorem footerLines_rebuild (f : Frame) (d : Facts) (width : Nat) :
    (f.rebuild d width).footerLines = ((d.footer width).map FooterLine.plain).reverse := by
  have hentry : ∀ l : FooterLine,
      trimEnd (String.join (l.entry.spans.map Span.text)) = l.plain := by
    rintro ⟨label | label, text⟩
    · rfl
    · rfl
  have hfooter : (d.withFooter (d.footer width)).filter (fun e => !e.header) =
      (d.footer width).map FooterLine.entry := by
    have hheader : [d.label, d.clock].filter (fun e => !e.header) = [] := rfl
    rw [Facts.withFooter, List.filter_append, hheader, List.nil_append, List.filter_eq_self]
    intro e he
    obtain ⟨l, -, rfl⟩ := List.mem_map.mp he
    rfl
  rw [rebuild_eq, Facts.entries_eq, footerLines, hfooter, List.map_map]
  exact congrArg List.reverse (List.map_congr_left fun l _ => hentry l)

/-- A composed line has room, or is a single word, unless it is the label alone. -/
theorem IsComposed.fitsOrWord {label text : String} {width : Nat} {lines : List FooterLine}
    (h : IsComposed label width (Text.words text) lines) {l : FooterLine} (hl : l ∈ lines) :
    FitsOrWord width l.plain ∨ l = ⟨some label, ""⟩ := by
  obtain ⟨lineLabel, lineText⟩ := l
  rcases h.fits _ hl with hfits | ⟨hlabel, htext⟩ | ⟨hlabel, hword, -⟩
  · exact .inl (.inl hfits)
  · simp only at hlabel htext
    rw [hlabel, htext]
    exact .inr rfl
  · simp only at hlabel hword
    have hmem : lineText ∈ Text.words text := by
      rw [← h.words]
      exact List.mem_flatMap.mpr ⟨_, hl, hword ▸ List.mem_cons_self⟩
    obtain ⟨hne, hblank⟩ := mem_words hmem
    have hplain : FooterLine.plain ⟨lineLabel, lineText⟩ = lineText := by
      rw [FooterLine.plain, FooterLine.labelText, hlabel]
      exact (trimEnd_append "" hne hblank).trans String.empty_append
    rw [hplain]
    exact .inl (.inr hblank)

/-- A label takes its columns, one for the colon, and those of the value. -/
theorem width_applications (text : String) :
    25 ≤ (FooterLine.mk (some applicationsLabel) text).width := by
  have hlabel : displayWidth applicationsLabel = 24 := by decide
  have hheading : displayWidth (applicationsLabel ++ ":") = 25 := by decide
  have hplain : (FooterLine.mk (some applicationsLabel) text).plain =
      if dropEndWhile isBlank text.toList = [] then applicationsLabel ++ ":"
      else applicationsLabel ++ ": " ++ trimEnd text := by
    have hbare : dropEndWhile isBlank (applicationsLabel ++ ": ").toList =
        (applicationsLabel ++ ":").toList := by decide
    change trimEnd (applicationsLabel ++ ": " ++ text) = _
    rw [trimEnd, String.toList_append, dropEndWhile_append, hbare]
    split
    · exact String.ofList_toList
    · rw [String.ofList_append, String.ofList_toList]
      rfl
  rw [FooterLine.width, hplain]
  split
  · exact Nat.le_of_eq hheading.symm
  · rw [displayWidth_labelled]
    omega

/-! ## Their rows -/

theorem sameRow_foldl_drawEntry (area : Rect) {ss : List (Nat × Entry)} {y : Nat}
    (hss : ∀ s ∈ ss, s.1 ≠ y) (d : Canvas) :
    SameRow d (ss.foldl (fun d s => drawEntry d area s.1 s.2) d) y := by
  induction ss generalizing d with
  | nil => exact ⟨rfl, fun _ => rfl⟩
  | cons s ss ih =>
      have hrow := hss s List.mem_cons_self
      exact ((onlyRows_drawEntry d area s.1 s.2).sameRow (by omega)).trans
        (ih (fun s' hs' => hss s' (List.mem_cons_of_mem s hs')) _)

/-- Each footer line that has a row is the last to be drawn on it, and the only one but for the
header. -/
theorem sameRow_footer (f : Frame) (d : Facts) {c : Canvas} (log : Log.Body) (hwidth : 2 ≤ c.width)
    (hmax : c.width ≤ maxCoord) (hmax' : c.height ≤ maxCoord) {i : Nat} {line : FooterLine}
    (hi : i < c.height) (hline : (d.footer c.width)[i]? = some line) :
    SameRow (drawEntry (d.header c) c.area (c.height - 1 - i) line.entry)
      ((f.rebuild d c.width).render c c.area log) (c.height - 1 - i) := by
  have hrender := onlyRows_render (f.rebuild d c.width) log hwidth hmax (by omega) hmax'
  rw [rebuild_eq, Facts.entries_eq] at hrender ⊢
  have hbelow : bodyBottom c.height (d.withFooter (d.footer c.width)) ≤ c.height - 1 - i := by
    have hdepth : min c.height _ ≤ depth c.height false (d.withFooter (d.footer c.width)) :=
      tally_le_depth false .left _
    have hlength := (List.getElem?_eq_some_iff.mp hline).1
    rw [Facts.tally_footer] at hdepth
    rw [bodyBottom, if_pos (by omega)]
    omega
  refine SameRow.trans ?_ (hrender.sameRow (.inr hbelow))
  rw [drawEntries_eq d (by omega)]
  generalize hrows : ((d.footer c.width).take c.height).zipIdx.map
    (fun s => (c.height - 1 - s.2, s.1.entry)) = rows
  have hget : ∀ j, rows[j]? = if j < c.height then
      (d.footer c.width)[j]?.map fun l => (c.height - 1 - j, l.entry) else none := by
    intro j
    rw [← hrows, List.getElem?_map, List.getElem?_zipIdx, List.getElem?_take, Nat.zero_add]
    split
    · rw [Option.map_map]
      rfl
    · rfl
  have hat : rows[i]? = some (c.height - 1 - i, line.entry) := by
    rw [hget, if_pos hi, hline]
    rfl
  have hother : ∀ j, j ≠ i → ∀ s, rows[j]? = some s → s.1 ≠ c.height - 1 - i := by
    intro j hj s hs
    rw [hget] at hs
    split at hs
    · obtain ⟨l, -, rfl⟩ := Option.map_eq_some_iff.mp hs
      change c.height - 1 - j ≠ _
      omega
    · cases hs
  obtain ⟨hlt, hentry⟩ := List.getElem?_eq_some_iff.mp hat
  have hsplit : rows = rows.take i ++ (c.height - 1 - i, line.entry) :: rows.drop (i + 1) := by
    rw [← hentry, ← List.drop_eq_getElem_cons hlt, List.take_append_drop]
  rw [hsplit, List.foldl_append, List.foldl_cons]
  refine SameRow.trans (sameRow_drawEntry (sameRow_foldl_drawEntry c.area ?_ (d.header c)) c.area _)
    (sameRow_foldl_drawEntry c.area ?_ _)
  · intro s hs
    obtain ⟨j, hj⟩ := List.mem_iff_getElem?.mp hs
    rw [List.getElem?_take] at hj
    split at hj
    · exact hother j (by omega) s hj
    · cases hj
  · intro s hs
    obtain ⟨j, hj⟩ := List.mem_iff_getElem?.mp hs
    rw [List.getElem?_drop] at hj
    exact hother _ (by omega) s hj

theorem Facts.extent_header (d : Facts) (c : Canvas) : (d.header c).extent = c.extent :=
  (extent_drawSpans ..).trans (extent_drawSpans ..)

/-- A label and its colon at the start of a row. -/
def ShowsLabel (c : Canvas) (y : Nat) (label : String) : Prop :=
  ∀ k ch, (label ++ ":").toList[k]? = some ch → c.cell? k y = some ⟨ch, .label⟩

theorem showsLabel_iff_of_sameRow {c d : Canvas} {y : Nat} (h : SameRow c d y) (label : String) :
    ShowsLabel d y label ↔ ShowsLabel c y label := by
  simp only [ShowsLabel, h.cell]

theorem toList_heading (label : String) : (label ++ ":").toList = label.toList ++ [':'] :=
  String.toList_append

/-- A label and its colon are whole on the row of a line exactly if they have room. -/
theorem showsLabel_drawEntry_iff {c : Canvas} {area : Rect} {y : Nat} (h : c.Spaced y)
    (hy : y < c.height) (hleft : area.x = 0) (hright : area.right = c.width) {label : String}
    (hnarrow : ∀ ch ∈ label.toList, columns ch = 1) (text : String) :
    ShowsLabel (drawEntry c area y (FooterLine.mk (some label) text).entry) y label ↔
      label.length + 1 ≤ c.width := by
  constructor
  · intro hshown
    have hcolon := hshown label.length ':' (by
      rw [toList_heading, ← String.length_toList]
      exact List.getElem?_concat_length)
    have hlt := (lt_of_cell? hcolon).1
    rwa [(onlyRows_drawEntry c area y _).width_eq] at hlt
  intro hroom k ch hk
  have hchars : (label ++ ": ").toList = (label ++ ":").toList ++ [' '] := by
    rw [toList_heading, String.toList_append, List.append_assoc]
    rfl
  have hnarrow' : ∀ ch ∈ (label ++ ": ").toList, columns ch = 1 := by
    rw [String.toList_append, List.forall_mem_append]
    exact ⟨hnarrow, narrow_of_all (by decide)⟩
  have hklt : k < label.length + 1 := by
    have hlt := (List.getElem?_eq_some_iff.mp hk).1
    rwa [toList_heading, List.length_append] at hlt
  have hletter : letterAt (fitting 0 c.width (label ++ ": ").toList) .label (0 + k) =
      some ⟨ch, .label⟩ := by
    rw [letterAt_fitting_of_narrow hnarrow' (by omega), hchars,
      List.getElem?_append_left (List.getElem?_eq_some_iff.mp hk).1, hk]
    rfl
  have hkept := h.kept_of_letterAt hy (Nat.le_refl c.width) hletter
  rw [Nat.zero_add] at hkept
  -- the value is written behind the colon, so it cuts nothing of the label
  change (drawSpans c area area.x y [⟨label ++ ": ", .label⟩, ⟨text, .normal⟩]).cell? k y = _
  rw [drawSpans_cons, hleft, hright, Nat.min_self]
  exact cell?_drawSpans_of_kept hkept area [⟨text, .normal⟩]

/-! ## Accepted widths -/

theorem minWidth_le_of_load {path : Option String} {file : Source.File}
    {lookup : String → Option String} {c : Config} (h : Config.load path file lookup = .ok c)
    {width : UInt16} (hwidth : c.console.width = some width) : Config.minWidth ≤ width.toNat :=
  (Config.keepsLimits_of_load h).width width hwidth

/-- The labels of the footer, by their columns. -/
theorem displayWidth_labels :
    displayWidth (addressesLabel ++ ":") = 15 ∧ displayWidth (applicationsLabel ++ ":") = 25 := by
  decide

theorem columns_labels :
    (∀ ch ∈ addressesLabel.toList, columns ch = 1) ∧
      ∀ ch ∈ applicationsLabel.toList, columns ch = 1 :=
  ⟨narrow_of_all (by decide), narrow_of_all (by decide)⟩

theorem IsComposed.label_eq {label : String} {width : Nat} {ws : List String}
    {lines : List FooterLine} (h : IsComposed label width ws lines) {l : FooterLine} (hl : l ∈ lines)
    {other : String} (hother : l.label = some other) : other = label := by
  obtain ⟨first, hfirst, hlabel⟩ := h.head
  cases lines with
  | nil => cases hl
  | cons a rest =>
      obtain rfl : a = first := Option.some.inj hfirst
      rcases List.mem_cons.mp hl with rfl | hl
      · rw [hlabel] at hother
        exact (Option.some.inj hother).symm
      · have hnone := (h.tail l hl).1
        rw [hnone] at hother
        cases hother

/-- The first line of the applications has no room on less than 25 columns. -/
theorem IsComposed.exists_mem_wide {ws : List String} {width : Nat} {lines : List FooterLine}
    (h : IsComposed applicationsLabel width ws lines) :
    ∃ l ∈ lines, FitsOrWord width l.plain → 25 ≤ width := by
  obtain ⟨⟨label, text⟩, hfirst, hlabel⟩ := h.head
  have hmem := List.mem_of_mem_head? hfirst
  refine ⟨_, hmem, ?_⟩
  simp only at hlabel
  subst hlabel
  rcases h.fits _ hmem with hfits | ⟨-, htext⟩ | ⟨hnone, -, -⟩
  · exact fun _ => Nat.le_trans (width_applications text) hfits
  · simp only at htext
    subst htext
    rintro (hfits | hblank)
    · exact Nat.le_trans (width_applications "") hfits
    · exact absurd (hblank ' ' (by decide)) (by decide)
  · cases hnone

theorem Facts.label_of_mem_footer (d : Facts) {width : Nat} {l : FooterLine}
    (hl : l ∈ d.footer width) {label : String} (hlabel : l.label = some label) :
    label = addressesLabel ∨ label = applicationsLabel := by
  rcases List.mem_append.mp hl with hl | hl
  · obtain ⟨lines, heq, hcomposed⟩ :=
      exists_isComposed addressesLabel (", ".intercalate d.addresses) width
    rw [heq, List.mem_reverse] at hl
    exact .inl (hcomposed.label_eq hl hlabel)
  · obtain ⟨lines, heq, hcomposed⟩ :=
      exists_isComposed applicationsLabel (", ".intercalate d.applications) width
    rw [heq, List.mem_reverse] at hl
    exact .inr (hcomposed.label_eq hl hlabel)

/-- A label is whole on the screen exactly if it has room with its colon. -/
theorem showsLabel_render_iff (f : Frame) (d : Facts) (log : Log.Body) {w h i : Nat}
    (hleast : 2 ≤ w) (hmost : w ≤ maxCoord) (hh : h ≤ maxCoord) (hi : i < h) {line : FooterLine}
    (hline : (d.footer w)[i]? = some line) {label : String} (hlabel : line.label = some label) :
    ShowsLabel ((f.rebuild d w).render (blank w h) (blank w h).area log) (h - 1 - i) label ↔
      label.length + 1 ≤ w := by
  obtain ⟨_, text⟩ := line
  simp only at hlabel
  subst hlabel
  have hrow := sameRow_footer f d (c := blank w h) log hleast hmost hh hi hline
  have hspaced : (d.header (blank w h)).Spaced (h - 1 - i) :=
    spaced_drawEntry (spaced_drawEntry ((aligned_blank w h).spaced _) _ _ _) _ _ _
  obtain ⟨hwidth, hheight⟩ : (d.header (blank w h)).width = w ∧ (d.header (blank w h)).height = h :=
    Prod.mk.inj (d.extent_header (blank w h))
  have hnarrow : ∀ ch ∈ label.toList, columns ch = 1 := by
    rcases d.label_of_mem_footer (List.mem_of_getElem? hline) rfl with rfl | rfl
    · exact columns_labels.1
    · exact columns_labels.2
  have hright : (blank w h).area.right = (d.header (blank w h)).width :=
    (area_right hmost).trans hwidth.symm
  have hdrawn := showsLabel_drawEntry_iff hspaced (by omega) rfl hright hnarrow text
  rw [hwidth] at hdrawn
  exact (showsLabel_iff_of_sameRow hrow label).trans hdrawn

/-- On every width that is accepted, a footer line has room or is a single word, unless it is the
label of the applications alone.  That one takes 25 columns, and so on a narrower screen it is cut
where it stands.  The label of the addresses is always whole. -/
theorem footer_fits_iff {path : Option String} {file : Source.File}
    {lookup : String → Option String} {c : Config} (hload : Config.load path file lookup = .ok c)
    {width : UInt16} (hwidth : c.console.width = some width) (f : Frame) (d : Facts) :
    let w := width.toNat
    (∀ line ∈ (f.rebuild d w).footerLines,
      FitsOrWord w line ∨ line = applicationsLabel ++ ":") ∧
    ((∀ line ∈ (f.rebuild d w).footerLines, FitsOrWord w line) ↔ 25 ≤ w) ∧
    ∀ (log : Log.Body) (h i : Nat) (line : FooterLine) (label : String), h ≤ maxCoord → i < h →
      (d.footer w)[i]? = some line → line.label = some label →
      (ShowsLabel ((f.rebuild d w).render (blank w h) (blank w h).area log) (h - 1 - i) label ↔
        label = addressesLabel ∨ 25 ≤ w) := by
  intro w
  have hleast : 20 ≤ w := minWidth_le_of_load hload hwidth
  have hmost : w ≤ maxCoord := Nat.le_of_lt_succ width.toNat_lt
  obtain ⟨haddresses, happlications⟩ := displayWidth_labels
  obtain ⟨above, habove, hupper⟩ :=
    exists_isComposed addressesLabel (", ".intercalate d.addresses) w
  obtain ⟨below, hbelow, hlower⟩ :=
    exists_isComposed applicationsLabel (", ".intercalate d.applications) w
  have hmem : ∀ line, line ∈ (f.rebuild d w).footerLines ↔
      ∃ l, (l ∈ above ∨ l ∈ below) ∧ l.plain = line := by
    intro line
    rw [footerLines_rebuild, List.mem_reverse, List.mem_map]
    simp only [Facts.footer, habove, hbelow, List.mem_append, List.mem_reverse]
  have hlines : ∀ line ∈ (f.rebuild d w).footerLines,
      FitsOrWord w line ∨ line = applicationsLabel ++ ":" := by
    intro line hline
    obtain ⟨l, hl | hl, rfl⟩ := (hmem line).mp hline
    · rcases hupper.fitsOrWord hl with hfits | rfl
      · exact .inl hfits
      · have hplain : (FooterLine.mk (some addressesLabel) "").plain = addressesLabel ++ ":" := by
          decide
        rw [hplain]
        exact .inl (.inl (by omega))
    · rcases hlower.fitsOrWord hl with hfits | rfl
      · exact .inl hfits
      · exact .inr (by decide)
  refine ⟨hlines, ⟨fun hall => ?_, fun hroom line hline => ?_⟩, ?_⟩
  · obtain ⟨l, hl, hwide⟩ := hlower.exists_mem_wide
    exact hwide (hall _ ((hmem _).mpr ⟨l, .inr hl, rfl⟩))
  · rcases hlines line hline with hfits | rfl
    · exact hfits
    · exact .inl (by omega)
  · intro log h i line label hh hi hline hlabel
    have hshown := showsLabel_render_iff f d log (by omega) hmost hh hi hline hlabel
    refine hshown.trans ?_
    rcases d.label_of_mem_footer (List.mem_of_getElem? hline) hlabel with rfl | rfl
    · exact iff_of_true (Nat.le_trans (by decide) hleast) (.inl rfl)
    · have hother : applicationsLabel ≠ addressesLabel := by decide
      rw [or_iff_right hother]
      rfl

/-- A width from the environment. -/
def widthOnly (digits name : String) : Option String :=
  if name = "OSD_CONSOLE_WIDTH" then some digits else none

def sized (width : UInt16) : Config :=
  { Config.standard with console := { Config.Console.standard with width := some width } }

/-- Thirty columns have room for both labels. -/
theorem footer_fits_thirty :
    Config.load none .absent (widthOnly "30") = .ok (sized 30) ∧
    (sized 30).console.width = some 30 ∧
    (∀ line ∈ (empty.rebuild quiet 30).footerLines, FitsOrWord 30 line) ∧
    10 ≤ maxCoord ∧ (quiet.footer 30)[1]? = some ⟨some applicationsLabel, ""⟩ ∧
    ShowsLabel ((empty.rebuild quiet 30).render (blank 30 10) (blank 30 10).area (.empty 5)) 8
      applicationsLabel := by
  have hload : Config.load none .absent (widthOnly "30") = .ok (sized 30) := by rfl
  have hline : (quiet.footer 30)[1]? = some ⟨some applicationsLabel, ""⟩ := by decide
  obtain ⟨-, hfits, hlabels⟩ := footer_fits_iff hload rfl empty quiet
  refine ⟨hload, rfl, hfits.mpr (by decide), by decide, hline, ?_⟩
  exact (hlabels (.empty 5) 10 1 _ _ (by decide) (by decide) hline rfl).mpr (.inr (by decide))

/-- Twenty columns are accepted, and the label of the applications, which is no single word, is
cut at the right edge. -/
theorem footer_cut_twenty :
    Config.load none .absent (widthOnly "20") = .ok (sized 20) ∧
    (sized 20).console.width = some 20 ∧
    applicationsLabel ++ ":" ∈ (empty.rebuild quiet 20).footerLines ∧
    20 < displayWidth (applicationsLabel ++ ":") ∧
    (∃ ch ∈ (applicationsLabel ++ ":").toList, isBlank ch = true) ∧
    ((empty.rebuild quiet 20).render (blank 20 10) (blank 20 10).area (.empty 5)).rowText 7 =
      "Installed applicatio" := by
  have hline : (quiet.footer 20)[2]? = some ⟨some applicationsLabel, ""⟩ := by decide
  have hrow := sameRow_footer empty quiet (c := blank 20 10) (.empty 5) (by decide) (by decide)
    (by decide) (by decide) hline
  refine ⟨by rfl, rfl, by decide, by decide, ⟨' ', by decide, rfl⟩, ?_⟩
  refine (hrow.rowText_eq (by decide +kernel)).trans ?_
  decide +kernel

end Frame

end StatusBoard
