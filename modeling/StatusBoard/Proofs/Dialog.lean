import StatusBoard.Modal
import StatusBoard.Proofs.Canvas.Inscription

/-!
What a dialog looks like.

The box is filled, outlined and titled, and then the rows of the message, the separator and the bar
are drawn, each on rows of its own.  The region inside the box has room for all of them on every
screen that the configuration accepts, so none of them touches another or the outline.
-/

namespace StatusBoard

open Text Canvas

/-! ## Boxes with a title -/

/-- The number of columns that a title may take on the edge of a box. -/
def Rect.titleWidth (r : Rect) (title : String) : Nat :=
  min (min (displayWidth title) maxCoord) (r.width - 4)

/-- The column that a title starts at. -/
def Rect.titleStart (r : Rect) (title : String) : Nat :=
  r.x + 2 + (r.width - 4 - r.titleWidth title) / 2

/-- A title is at least two columns away from either end of the edge. -/
theorem Rect.title_apart {r : Rect} (hwidth : 4 ≤ r.width) (hright : r.right = r.x + r.width)
    (title : String) : r.x + 2 ≤ r.titleStart title ∧
      r.titleStart title + r.titleWidth title + 2 ≤ r.right := by
  have hle : r.titleWidth title ≤ r.width - 4 := Nat.min_le_right ..
  unfold titleStart
  omega

namespace Canvas

variable {c : Canvas} {r : Rect}

theorem putText_empty (c : Canvas) (x y : Nat) (t : Tone) (limit : Nat) :
    (c.putText x y "" t limit).1 = c := rfl

theorem drawBox_title (hwidth : 2 ≤ r.width) (hheight : 2 ≤ r.height) (c : Canvas)
    (title : String) :
    c.drawBox r (some title) = ((c.drawBorder r).putText (r.titleStart title) r.y title .title
      (r.titleStart title + r.titleWidth title)).1 := by
  have hsize : ¬ (decide (r.width < 2) || decide (r.height < 2)) = true := by
    rw [Bool.or_eq_true, decide_eq_true_eq, decide_eq_true_eq]
    omega
  rw [drawBox, if_neg hsize]
  simp only
  split
  · rename_i hempty
    rw [hempty]
    exact (putText_empty ..).symm
  · rfl

end Canvas

/-! ## Dialogs -/

namespace Modal

/-- What a dialog looks like on a canvas, in a box. -/
structure IsShown (m : Modal) (d : Canvas) (box : Rect) : Prop where
  inside : box.right ≤ d.width ∧ box.bottom ≤ d.height
  /-- The box is in the middle, with a column or row left over on the right or below. -/
  centered : (d.width - box.right = box.x ∨ d.width - box.right = box.x + 1) ∧
    (d.height - box.bottom = box.y ∨ d.height - box.bottom = box.y + 1)
  corners : d.cell? box.x box.y = some ⟨'┌', .border⟩ ∧
    d.cell? (box.right - 1) box.y = some ⟨'┐', .border⟩ ∧
    d.cell? box.x (box.bottom - 1) = some ⟨'└', .border⟩ ∧
    d.cell? (box.right - 1) (box.bottom - 1) = some ⟨'┘', .border⟩
  lower : ∀ x, box.x < x → x < box.right - 1 →
    d.cell? x (box.bottom - 1) = some ⟨'─', .border⟩
  /-- The separator joins the sides on the last row but one inside. -/
  sides : ∀ y, box.y < y → y < box.bottom - 1 →
    d.cell? box.x y =
      some ⟨if 0 < m.max ∧ y = box.inner.bottom - 2 then '├' else '│', .border⟩ ∧
    d.cell? (box.right - 1) y =
      some ⟨if 0 < m.max ∧ y = box.inner.bottom - 2 then '┤' else '│', .border⟩
  apart : box.x + 2 ≤ box.titleStart m.title ∧
    box.titleStart m.title + box.titleWidth m.title + 2 ≤ box.right
  upper : ∀ x, box.x < x → x < box.right - 1 →
    d.cell? x box.y = (lettering m.title .title (box.titleStart m.title)
      (box.titleStart m.title + box.titleWidth m.title) x).or (some ⟨'─', .border⟩)
  /-- A title is not cut if its characters have room. -/
  whole : totalColumns m.title.toList ≤ box.titleWidth m.title →
    fitting (box.titleStart m.title) (box.titleStart m.title + box.titleWidth m.title)
      m.title.toList = places (box.titleStart m.title) m.title.toList
  /-- There is a row for the message, and the rows inside are for the message, the separator and the
  bar. -/
  room : 1 ≤ m.messageRows box ∧
    m.messageRows box + (if 0 < m.max then 2 else 0) = box.inner.height
  /-- The rows of the message are its lines, each wrapped to the width inside. -/
  message : ∀ i < m.messageRows box, ∀ x, box.inner.x ≤ x → x < box.inner.right →
    d.cell? x (box.inner.y + i) =
      (lettering
        (((lines m.message).flatMap (Log.wrapLine · box.inner.width))[i]?.getD "") .normal
        box.inner.x box.inner.right x).or (some Cell.blank)
  separator : 0 < m.max → ∀ x, box.inner.x ≤ x → x < box.inner.right →
    d.cell? x (box.inner.bottom - 2) = some ⟨'─', .border⟩
  bar : 0 < m.max → ∀ i < box.inner.width,
    d.cell? (box.inner.x + i) (box.inner.bottom - 1) =
      some ⟨if i < filledCells m.fraction box.inner.width then filledCell else emptyCell, .progress⟩

variable {c d : Canvas} {box : Rect} {m : Modal}

theorem drawRows_eq (c : Canvas) (area : Rect) (y : Nat) (rows : List String) :
    drawRows c area y rows = c.putRows area y (rows.map fun row => (row, .normal)) := by
  induction rows generalizing c y with
  | nil => rfl
  | cons row rest ih => exact ih _ (y + 1)

theorem lettering_progressBar {f : Float} {n : Nat} {col i : Nat} (hi : i < n) (t : Tone) :
    lettering (progressBar f n) t col (col + n) (col + i) =
      some ⟨if i < filledCells f n then filledCell else emptyCell, t⟩ := by
  have hnarrow : ∀ ch ∈ (progressBar f n).toList, columns ch = 1 := by
    intro ch hch
    rw [progressBar, String.toList_ofList, List.mem_append, List.mem_replicate,
      List.mem_replicate] at hch
    apply columns_furniture
    rcases hch with ⟨-, rfl⟩ | ⟨-, rfl⟩
    · decide
    · decide
  rw [lettering, letterAt_fitting_of_narrow hnarrow (by omega), progressBar, String.toList_ofList,
    List.getElem?_append, List.length_replicate]
  split
  · rename_i hfilled
    rw [List.getElem?_replicate_of_lt hfilled]
    rfl
  · rename_i hempty
    rw [List.getElem?_replicate_of_lt (by omega)]
    rfl

/-! ## Stages of drawing -/

/-- A dialog before its message is written. -/
def framed (m : Modal) (c : Canvas) (box : Rect) : Canvas :=
  (c.fill box ' ' .normal).drawBox box (some m.title)

/-- A dialog before its bar is drawn. -/
def messaged (m : Modal) (c : Canvas) (box : Rect) : Canvas :=
  (m.framed c box).putRows box.inner box.inner.y
    (((m.messageLines box.inner.width).take (m.messageRows box)).map fun row => (row, .normal))

/-- The bar of a dialog, below its separator. -/
def barred (m : Modal) (c : Canvas) (box : Rect) : Canvas :=
  (((m.messaged c box).drawSeparator box (box.inner.bottom - 2)).putText box.inner.x
    (box.inner.bottom - 1) (progressBar m.fraction box.inner.width) .progress box.inner.right).1

/-- A dialog in its box. -/
def drawn (m : Modal) (c : Canvas) (box : Rect) : Canvas :=
  if 0 < m.max then m.barred c box else m.messaged c box

theorem messageRows_add (m : Modal) (hheight : 5 ≤ box.height) :
    1 ≤ m.messageRows box ∧
      m.messageRows box + (if 0 < m.max then 2 else 0) = box.height - 2 := by
  simp only [messageRows, hasProgress, decide_eq_true_eq]
  split
  · omega
  · omega

theorem onlyRows_messaged (m : Modal) (c : Canvas) (box : Rect) :
    OnlyRows box.inner.y (box.inner.y + m.messageRows box) (m.framed c box) (m.messaged c box) := by
  refine (OnlyRows.putRows (m.framed c box) box.inner box.inner.y _).mono (Nat.le_refl _) ?_
  rw [List.length_map, List.length_take]
  omega

theorem render_eq (m : Modal) (c : Canvas) {screen : Rect} (hwidth : 4 ≤ (layout screen).width)
    (hheight : 5 ≤ (layout screen).height) :
    m.render c screen = m.drawn c (layout screen) := by
  have hsize : ¬ (decide ((layout screen).width < 2) || decide ((layout screen).height < 2)) = true
      := by
    rw [Bool.or_eq_true, decide_eq_true_eq, decide_eq_true_eq]
    omega
  have hinner : 2 ≤ (layout screen).inner.height := by
    have hh : (layout screen).inner.height = (layout screen).height - 2 := rfl
    omega
  rw [render]
  simp only [if_neg hsize, drawRows_eq, hasProgress, hinner, decide_true, Bool.and_true,
    decide_eq_true_eq]
  rfl

section

variable (hin : box.Within c) (hwidth : 4 ≤ box.width) (hheight : 5 ≤ box.height)

include hin hwidth hheight

/-- The box has its edges and nothing in it but its title. -/
theorem cell?_framed (m : Modal) :
    (∀ x, box.x ≤ x → x < box.right → (m.framed c box).cell? x box.y =
      (lettering m.title .title (box.titleStart m.title)
        (box.titleStart m.title + box.titleWidth m.title) x).or (some (box.boxed x box.y))) ∧
    (∀ x y, box.Contains x y → y ≠ box.y → (m.framed c box).cell? x y = some (box.boxed x y)) ∧
    (m.framed c box).Free box.x box.right (box.y + 1) box.bottom := by
  obtain ⟨⟨hright, hbottom⟩, -⟩ := hin.edges (by omega) (by omega)
  have hsize := hin.right_le
  have hsize' := hin.bottom_le
  have hmax := hin.width_le
  have hfilled : ∀ x y, box.Contains x y →
      (c.fill box ' ' .normal).cell? x y = some Cell.blank := fun x y hxy =>
    cell?_fill_space (by omega) (by omega) hxy .normal
  have hextent : (c.fill box ' ' .normal).width = c.width ∧
      (c.fill box ' ' .normal).height = c.height := Prod.mk.inj (extent_fill c box ' ' .normal)
  obtain ⟨hfree, hboxed⟩ := cell?_drawBorder_of_blank (by omega) (by omega) (by omega) (by omega)
    hfilled
  have hapart := Rect.title_apart hwidth hright m.title
  have hframed := drawBox_title (r := box) (by omega) (by omega) (c.fill box ' ' .normal) m.title
  have htitle := OnlyRows.putText (show box.y ≤ box.y ∧ box.y < box.y + 1 by omega)
    ((c.fill box ' ' .normal).drawBorder box) (box.titleStart m.title) m.title .title
    (box.titleStart m.title + box.titleWidth m.title)
  rw [← hframed] at htitle
  refine ⟨fun x hx hx' => ?_, fun x y hxy hy => ?_, ?_⟩
  · have hrow : ((c.fill box ' ' .normal).drawBorder box).Free (box.titleStart m.title)
        (box.titleStart m.title + box.titleWidth m.title + 1) box.y (box.y + 1) :=
      hfree.mono (by omega) (by omega) (by omega) (by omega)
    rw [framed, hframed, hrow.cell?_putText (by omega),
      hboxed x box.y ⟨hx, hx', by omega, by omega⟩]
  · have htop := hxy.2.2.1
    rw [framed, htitle.other x y (by omega), hboxed x y hxy]
  · exact (hfree.mono (by omega) (by omega) (by omega) (by omega)).of_onlyRows htitle (by omega)

/-- The rows of the message are below the upper edge. -/
theorem cell?_messaged (m : Modal) {i : Nat} (hi : i < m.messageRows box) {x : Nat}
    (hx : box.x ≤ x ∧ x < box.right) :
    (m.messaged c box).cell? x (box.inner.y + i) =
      (lettering ((m.messageLines box.inner.width)[i]?.getD "") .normal box.inner.x
        box.inner.right x).or (some (box.boxed x (box.inner.y + i))) := by
  obtain ⟨⟨hright, hbottom⟩, ⟨hinnerx, hinnerright, -⟩, ⟨hinnery, hinnerbottom, -⟩⟩ :=
    hin.edges (by omega) (by omega)
  have hsize := hin.right_le
  have hmax := hin.width_le
  obtain ⟨-, hframed, hfree⟩ := cell?_framed hin hwidth hheight m
  have hroom := (m.messageRows_add hheight).2
  have hcell := hframed x (box.inner.y + i) ⟨hx.1, hx.2, by omega, by split at hroom <;> omega⟩
    (by omega)
  have hline : (((m.messageLines box.inner.width).take (m.messageRows box)).map
      fun row => (row, Tone.normal))[i]? = (m.messageLines box.inner.width)[i]?.map (·, .normal) := by
    rw [List.getElem?_map, List.getElem?_take_of_lt hi]
  rw [messaged, Free.cell?_putRows (hfree.mono ?_ ?_ ?_ ?_) (by omega), hcell, hline]
  · cases (m.messageLines box.inner.width)[i]? <;> rfl
  · omega
  · omega
  · omega
  · rw [List.length_map, List.length_take]
    split at hroom <;> omega

theorem free_messaged (m : Modal) :
    (m.messaged c box).Free box.x box.right (box.inner.y + m.messageRows box) box.bottom := by
  obtain ⟨-, ⟨-, -, -⟩, ⟨hinnery, -, -⟩⟩ := hin.edges (by omega) (by omega)
  refine Free.of_onlyRows ?_ (m.onlyRows_messaged c box) (.inl (Nat.le_refl _))
  exact (cell?_framed hin hwidth hheight m).2.2.mono (Nat.le_refl _) (Nat.le_refl _) (by omega)
    (Nat.le_refl _)

theorem onlyRows_separated (m : Modal) :
    OnlyRows (box.inner.bottom - 2) (box.inner.bottom - 1) (m.messaged c box)
      ((m.messaged c box).drawSeparator box (box.inner.bottom - 2)) := by
  obtain ⟨⟨hright, hbottom⟩, -, ⟨hinnery, hinnerbottom, -⟩⟩ := hin.edges (by omega) (by omega)
  refine (OnlyRows.drawSeparator (by omega) (by omega) _ _).mono (Nat.le_refl _) ?_
  omega

theorem onlyRows_barred (m : Modal) :
    OnlyRows (box.inner.bottom - 1) box.inner.bottom
      ((m.messaged c box).drawSeparator box (box.inner.bottom - 2)) (m.barred c box) := by
  obtain ⟨⟨hright, hbottom⟩, -, ⟨hinnery, hinnerbottom, -⟩⟩ := hin.edges (by omega) (by omega)
  exact OnlyRows.putText (by omega) _ _ _ _ _

/-- The separator and the bar have the last two rows inside. -/
theorem cell?_barred (hpositive : 0 < m.max) {x : Nat} (hx : box.x ≤ x ∧ x < box.right) :
    (m.barred c box).cell? x (box.inner.bottom - 2) = some ⟨box.joint x, .border⟩ ∧
    (m.barred c box).cell? x (box.inner.bottom - 1) =
      (lettering (progressBar m.fraction box.inner.width) .progress box.inner.x box.inner.right
        x).or (some (box.boxed x (box.inner.bottom - 1))) := by
  obtain ⟨⟨hright, hbottom⟩, ⟨hinnerx, hinnerright, -⟩, ⟨hinnery, hinnerbottom, -⟩⟩ :=
    hin.edges (by omega) (by omega)
  have hsize := hin.right_le
  have hmax := hin.width_le
  have hroom := (m.messageRows_add hheight).2
  rw [if_pos hpositive] at hroom
  have hfree := free_messaged hin hwidth hheight m
  have hseparated := onlyRows_separated hin hwidth hheight m
  constructor
  · have hrow : (m.messaged c box).Free box.x box.right (box.inner.bottom - 2)
        (box.inner.bottom - 2 + 1) := hfree.mono (by omega) (by omega) (by omega) (by omega)
    rw [(onlyRows_barred hin hwidth hheight m).other x _ (by omega)]
    exact hrow.cell?_drawSeparator (by omega) (by omega) hx
  · have hrow : (m.messaged c box).Free box.inner.x (box.inner.right + 1) (box.inner.bottom - 1)
        (box.inner.bottom - 1 + 1) := hfree.mono (by omega) (by omega) (by omega) (by omega)
    have hplain : ((m.messaged c box).drawSeparator box (box.inner.bottom - 2)).cell? x
        (box.inner.bottom - 1) = some (box.boxed x (box.inner.bottom - 1)) := by
      rw [hseparated.other x _ (by omega), (m.onlyRows_messaged c box).other x _ (by omega)]
      exact (cell?_framed hin hwidth hheight m).2.1 x _ ⟨hx.1, hx.2, by omega, by omega⟩ (by omega)
    rw [← hplain]
    exact (hrow.of_onlyRows hseparated (by omega)).cell?_putText (by omega) _ _ x

/-- Only the rows below the message tell a dialog with a bar from one without. -/
theorem onlyRows_drawn (m : Modal) :
    OnlyRows (box.inner.y + m.messageRows box) box.inner.bottom (m.messaged c box)
      (m.drawn c box) := by
  obtain ⟨⟨hright, hbottom⟩, -, ⟨hinnery, hinnerbottom, -⟩⟩ := hin.edges (by omega) (by omega)
  have hroom := (m.messageRows_add hheight).2
  rw [drawn]
  split
  · rename_i hpositive
    rw [if_pos hpositive] at hroom
    exact ((onlyRows_separated hin hwidth hheight m).mono (by omega) (by omega)).trans
      ((onlyRows_barred hin hwidth hheight m).mono (by omega) (Nat.le_refl _))
  · exact OnlyRows.refl _ _ _

theorem cell?_drawn_message (m : Modal) {i : Nat} (hi : i < m.messageRows box) {x : Nat}
    (hx : box.x ≤ x ∧ x < box.right) :
    (m.drawn c box).cell? x (box.inner.y + i) =
      (lettering ((m.messageLines box.inner.width)[i]?.getD "") .normal box.inner.x
        box.inner.right x).or (some (box.boxed x (box.inner.y + i))) := by
  rw [(onlyRows_drawn hin hwidth hheight m).other x _ (by omega)]
  exact cell?_messaged hin hwidth hheight m hi hx

/-- The message and the bar leave the upper and the lower edge as they are. -/
theorem cell?_drawn_edge (m : Modal) {x y : Nat} (hx : box.x ≤ x ∧ x < box.right)
    (hy : y = box.y ∨ y = box.bottom - 1) :
    (m.drawn c box).cell? x y =
      if y = box.y then (lettering m.title .title (box.titleStart m.title)
        (box.titleStart m.title + box.titleWidth m.title) x).or (some (box.boxed x box.y))
      else some (box.boxed x y) := by
  obtain ⟨⟨hright, hbottom⟩, -, ⟨hinnery, hinnerbottom, -⟩⟩ := hin.edges (by omega) (by omega)
  have hroom := (m.messageRows_add hheight).2
  obtain ⟨htop, hframed, -⟩ := cell?_framed hin hwidth hheight m
  have hbelow : box.inner.y + m.messageRows box ≤ box.inner.bottom := by
    split at hroom <;> omega
  rw [(onlyRows_drawn hin hwidth hheight m).other x y (by omega),
    (m.onlyRows_messaged c box).other x y (by omega)]
  split
  · rename_i hupper
    rw [hupper]
    exact htop x hx.1 hx.2
  · rename_i hlower
    exact hframed x y ⟨hx.1, hx.2, by omega, by omega⟩ hlower

/-- The sides are whole but for the joints of the separator. -/
theorem cell?_drawn_side (m : Modal) {x y : Nat} (hx : x = box.x ∨ x = box.right - 1)
    (htop : box.y < y) (hlow : y < box.bottom - 1) :
    (m.drawn c box).cell? x y = some
      ⟨if 0 < m.max ∧ y = box.inner.bottom - 2 then box.joint x else '│', .border⟩ := by
  obtain ⟨⟨hright, hbottom⟩, ⟨hinnerx, hinnerright, -⟩, ⟨hinnery, hinnerbottom, -⟩⟩ :=
    hin.edges (by omega) (by omega)
  have hroom := (m.messageRows_add hheight).2
  have hplain : box.boxed x y = ⟨'│', .border⟩ :=
    Rect.boxed_of_edge? (Rect.edge?_side (by omega) (by omega) hx)
  by_cases hrow : y < box.inner.y + m.messageRows box
  · obtain ⟨i, rfl⟩ : ∃ i, y = box.inner.y + i := ⟨y - box.inner.y, by omega⟩
    rw [cell?_drawn_message hin hwidth hheight m (by omega) (by omega),
      lettering_eq_none (by omega), hplain, if_neg]
    · rfl
    · rintro ⟨hpositive, hseparator⟩
      rw [if_pos hpositive] at hroom
      omega
  · by_cases hpositive : 0 < m.max
    · obtain ⟨hseparator, hbar⟩ := cell?_barred hin hwidth hheight (x := x) hpositive (by omega)
      rw [if_pos hpositive] at hroom
      rw [drawn, if_pos hpositive]
      by_cases hbetween : y = box.inner.bottom - 2
      · rw [if_pos ⟨hpositive, hbetween⟩, hbetween, hseparator]
      · obtain rfl : y = box.inner.bottom - 1 := by omega
        rw [hbar, lettering_eq_none (by omega), hplain, if_neg fun h => hbetween h.2]
        rfl
    · rw [if_neg hpositive] at hroom
      omega

end

/-- A dialog is shown whole on every screen that the configuration accepts, whatever its title and
its message are and whatever stood on the canvas. -/
theorem render_isShown (m : Modal) (c : Canvas) (hwidth : 20 ≤ c.width) (hmax : c.width ≤ maxCoord)
    (hheight : 10 ≤ c.height) (hmax' : c.height ≤ maxCoord) :
    m.IsShown (m.render c c.area) (layout c.area) := by
  have hbox : (layout c.area).width = c.width * 3 / 4 ∧ (layout c.area).height = c.height / 2 ∧
      (layout c.area).x = (c.width - c.width * 3 / 4) / 2 ∧
      (layout c.area).y = (c.height - c.height / 2) / 2 := by
    simp only [layout, Rect.centered, area]
    omega
  obtain ⟨hwidth', hheight'⟩ : (m.render c c.area).width = c.width ∧
      (m.render c c.area).height = c.height := Prod.mk.inj (extent_render m c c.area)
  rw [render_eq m c (by omega) (by omega)] at hwidth' hheight' ⊢
  generalize layout c.area = box at *
  have hin : box.Within c := ⟨by omega, by omega, hmax, hmax'⟩
  have hw : 4 ≤ box.width := by omega
  have hh : 5 ≤ box.height := by omega
  obtain ⟨⟨hright, hbottom⟩, ⟨hinnerx, hinnerright, hinnerwidth⟩,
    ⟨hinnery, hinnerbottom, hinnerheight⟩⟩ := hin.edges (by omega) (by omega)
  have hne : box.right - 1 ≠ box.x := by omega
  have hne' : box.bottom - 1 ≠ box.y := by omega
  have hroom := m.messageRows_add hh
  have hapart := Rect.title_apart hw hright m.title
  obtain ⟨hupleft, hupright, hlowleft, hlowright⟩ := Rect.edge?_corners hne hne'
  obtain ⟨hjoint, hjoint'⟩ := Rect.joint_ends hne
  have hupper : ∀ x, box.x ≤ x ∧ x < box.right → (m.drawn c box).cell? x box.y = _ := fun x hx =>
    (cell?_drawn_edge hin hw hh m hx (.inl rfl)).trans (if_pos rfl)
  have hlower : ∀ x, box.x ≤ x ∧ x < box.right → (m.drawn c box).cell? x (box.bottom - 1) = _ :=
    fun x hx => (cell?_drawn_edge hin hw hh m hx (.inr rfl)).trans (if_neg hne')
  refine ⟨?_, ?_, ⟨?_, ?_, ?_, ?_⟩, ?_, ?_, hapart, ?_, ?_, ?_, ?_, ?_, ?_⟩
  · omega
  · omega
  · rw [hupper _ (by omega), lettering_eq_none (by omega), Rect.boxed_of_edge? hupleft]
    rfl
  · rw [hupper _ (by omega), lettering_eq_none (by omega), Rect.boxed_of_edge? hupright]
    rfl
  · rw [hlower _ (by omega), Rect.boxed_of_edge? hlowleft]
  · rw [hlower _ (by omega), Rect.boxed_of_edge? hlowright]
  · intro x hx hx'
    rw [hlower x (by omega),
      Rect.boxed_of_edge? (Rect.edge?_lower (by omega) (by omega) hne')]
  · intro y hy hy'
    rw [cell?_drawn_side hin hw hh m (.inl rfl) hy hy',
      cell?_drawn_side hin hw hh m (.inr rfl) hy hy', hjoint, hjoint']
    exact ⟨rfl, rfl⟩
  · intro x hx hx'
    rw [hupper x (by omega), Rect.boxed_of_edge? (Rect.edge?_upper (by omega) (by omega))]
  · exact fun hfits => fitting_eq_places (Nat.add_le_add_left hfits _)
  · rw [hinnerheight]
    exact hroom
  · intro i hi x hx hx'
    have hrow : box.inner.y + i ≠ box.bottom - 1 := by split at hroom <;> omega
    have hinside : box.boxed x (box.inner.y + i) = Cell.blank :=
      Rect.boxed_inside (by omega) (by omega) (by omega) hrow
    exact hinside ▸ cell?_drawn_message hin hw hh m hi (by omega)
  · intro hpositive x hx hx'
    rw [drawn, if_pos hpositive, (cell?_barred hin hw hh hpositive (by omega)).1,
      Rect.joint_between (by omega) (by omega)]
  · intro hpositive i hi
    rw [drawn, if_pos hpositive, (cell?_barred hin hw hh hpositive (by omega)).2,
      show box.inner.right = box.inner.x + box.inner.width by omega, lettering_progressBar hi]
    rfl

def updating : Modal := ⟨"Updating", "Please wait.", 3, 4⟩

/-- On the smallest screen there is one row for the message above the bar, and the message starts in
its first column. -/
theorem render_isShown_smallest :
    layout (blank 20 10).area = ⟨2, 2, 15, 5⟩ ∧ updating.messageRows ⟨2, 2, 15, 5⟩ = 1 ∧
    20 ≤ (blank 20 10).width ∧ (blank 20 10).width ≤ maxCoord ∧
    10 ≤ (blank 20 10).height ∧ (blank 20 10).height ≤ maxCoord ∧
    updating.IsShown (updating.render (blank 20 10) (blank 20 10).area)
      (layout (blank 20 10).area) ∧
    (updating.render (blank 20 10) (blank 20 10).area).cell? 3 3 = some ⟨'P', .normal⟩ := by
  have hshown :=
    render_isShown updating (blank 20 10) (by decide) (by decide) (by decide) (by decide)
  refine ⟨by decide, by decide, by decide, by decide, by decide, by decide, hshown, ?_⟩
  exact (hshown.message 0 (by decide) 3 (by decide) (by decide)).trans (by decide +kernel)

end Modal

end StatusBoard
