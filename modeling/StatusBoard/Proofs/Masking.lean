import StatusBoard.Board.Basic
import StatusBoard.Proofs.Canvas.Region
import StatusBoard.Proofs.Composing
import StatusBoard.Proofs.Pages

/-!
A dialog masks what is under it and touches nothing else.

The box of the dialog is filled first, and everything else is drawn within it.  What is seen in the
box therefore depends on the dialog and the size of the canvas alone, and outside only what the
filling cuts differs from the picture without the dialog.
-/

namespace StatusBoard

open Text Canvas

namespace Modal

theorem layout_fits (w h : Nat) :
    (layout ⟨0, 0, w, h⟩).x + (layout ⟨0, 0, w, h⟩).width ≤ w ∧
    (layout ⟨0, 0, w, h⟩).y + (layout ⟨0, 0, w, h⟩).height ≤ h := by
  simp only [layout, Rect.centered]
  omega

variable {r : Rect} {c c' d d' : Canvas}

theorem tandem_drawRows (h : Tandem r c c' d d') (area : Rect) (y : Nat) (rows : List String)
    (hx : r.x ≤ area.x) (hright : area.right ≤ r.right) (hmax : r.right < maxCoord) (htop : r.y ≤ y)
    (hbottom : y + rows.length ≤ r.bottom) :
    Tandem r c c' (drawRows d area y rows) (drawRows d' area y rows) := by
  induction rows generalizing d d' y with
  | nil => exact h
  | cons row rest ih =>
      rw [List.length_cons] at hbottom
      exact ih (h.putText hx hright hmax htop (by omega) row .normal) (y + 1) (by omega) (by omega)

/-- What is drawn after the box has been filled stays within the box. -/
theorem tandem_render (m : Modal) {screen : Rect} (hwidth : 2 ≤ (layout screen).width)
    (hheight : 2 ≤ (layout screen).height)
    (hright : (layout screen).x + (layout screen).width < maxCoord)
    (hbottom : (layout screen).y + (layout screen).height < maxCoord)
    (h : Tandem (layout screen) c c' (d.fill (layout screen) ' ' .normal)
      (d'.fill (layout screen) ' ' .normal)) :
    Tandem (layout screen) c c' (m.render d screen) (m.render d' screen) := by
  unfold render
  simp only
  generalize layout screen = box at *
  have hboxright : box.right = box.x + box.width := addCoord_eq (by omega)
  have hboxbottom : box.bottom = box.y + box.height := addCoord_eq (by omega)
  have hx : box.inner.x = box.x + 1 := addCoord_eq (by omega)
  have hy : box.inner.y = box.y + 1 := addCoord_eq (by omega)
  have hw : box.inner.width = box.width - 2 := rfl
  have hh : box.inner.height = box.height - 2 := rfl
  have hinner : box.inner.right = box.inner.x + box.inner.width := addCoord_eq (by omega)
  have hinner' : box.inner.bottom = box.inner.y + box.inner.height := addCoord_eq (by omega)
  have hsize : ¬ (decide (box.width < 2) || decide (box.height < 2)) = true := by
    rw [Bool.or_eq_true, decide_eq_true_eq, decide_eq_true_eq]
    omega
  rw [if_neg hsize, if_neg hsize]
  have hrows : ((m.messageLines box.inner.width).take (m.messageRows box)).length ≤
      box.height - 2 := by
    refine Nat.le_trans (List.length_take_le ..) ?_
    rw [messageRows]
    split <;> omega
  have hbody := tandem_drawRows (h.drawBox hright hbottom (some m.title)) box.inner box.inner.y
    ((m.messageLines box.inner.width).take (m.messageRows box)) (by omega) (by omega) (by omega)
    (by omega) (by omega)
  by_cases hbar : (m.hasProgress && decide (2 ≤ box.inner.height)) = true
  · rw [if_pos hbar, if_pos hbar]
    rw [Bool.and_eq_true, decide_eq_true_eq] at hbar
    refine Tandem.putText ?_ (by omega) (by omega) (by omega) (by omega) (by omega) _ _
    exact hbody.drawSeparator hright (by omega) (by omega)
  · rw [if_neg hbar, if_neg hbar]
    exact hbody

theorem render_eq_self (m : Modal) {screen : Rect}
    (h : ¬ (2 ≤ (layout screen).width ∧ 2 ≤ (layout screen).height)) (c : Canvas) :
    m.render c screen = c := by
  have hsize : (decide ((layout screen).width < 2) || decide ((layout screen).height < 2)) =
      true := by
    rw [Bool.or_eq_true, decide_eq_true_eq, decide_eq_true_eq]
    omega
  rw [render]
  exact if_pos hsize

end Modal

/-- What the pictures of one size have in common. -/
structure IsPicture (w h : Nat) (c : Canvas) : Prop where
  width_eq : c.width = w
  height_eq : c.height = h
  aligned : c.Aligned
  toned : c.Toned

theorem IsPicture.area_eq {w h : Nat} {c : Canvas} (hc : IsPicture w h c) :
    c.area = ⟨0, 0, w, h⟩ := by
  rw [area, hc.width_eq, hc.height_eq]

theorem isPicture_compose {w : Nat} (hw : w < maxCoord) (h : Nat) (frame : Frame) (log : Log.Body)
    (pages : Pages) : IsPicture w h (compose frame log pages w h) := by
  have hdrawn : Draws (fun _ => True) (blank w h) (compose frame log pages w h) :=
    draws_compose hw h (fun _ _ => trivial) fun _ _ _ => trivial
  constructor
  · exact hdrawn.width_eq
  · exact hdrawn.height_eq
  · exact hdrawn.aligned (aligned_blank w h)
  · exact hdrawn.toned (aligned_blank w h) (toned_blank w h)

namespace Modal

section

variable {w h : Nat} (hw : w < maxCoord) (hh : h < maxCoord) (m : Modal) {c c' : Canvas}
  (hc : IsPicture w h c)

include hw hh hc

theorem layout_bounds :
    let box := layout ⟨0, 0, w, h⟩
    (box.right = box.x + box.width ∧ box.right ≤ c.width) ∧
      box.bottom = box.y + box.height ∧ box.bottom ≤ c.height := by
  intro box
  rw [hc.width_eq, hc.height_eq]
  have hfits : box.x + box.width ≤ w ∧ box.y + box.height ≤ h := layout_fits w h
  have hright : box.right = box.x + box.width := addCoord_eq (by omega)
  have hbottom : box.bottom = box.y + box.height := addCoord_eq (by omega)
  omega

variable (hwidth : 2 ≤ (layout ⟨0, 0, w, h⟩).width) (hheight : 2 ≤ (layout ⟨0, 0, w, h⟩).height)

include hwidth hheight

theorem tandem_masked (hc' : IsPicture w h c') :
    Tandem (layout ⟨0, 0, w, h⟩) (c.fill (layout ⟨0, 0, w, h⟩) ' ' .normal)
      (c'.fill (layout ⟨0, 0, w, h⟩) ' ' .normal) (m.render c ⟨0, 0, w, h⟩)
      (m.render c' ⟨0, 0, w, h⟩) := by
  obtain ⟨⟨hright, hrightc⟩, hbottom, hbottomc⟩ := layout_bounds hw hh hc
  have hcw := hc.width_eq
  have hch := hc.height_eq
  apply m.tandem_render hwidth hheight (by omega) (by omega)
  exact tandem_fill hc.toned hc.aligned hc'.toned hc'.aligned (hcw.trans hc'.width_eq.symm)
    (hch.trans hc'.height_eq.symm) columns_space .normal (by omega) hrightc (by omega) hbottomc

/-- Outside its box a dialog changes only what filling the box cuts. -/
theorem cell?_masked {x y : Nat} (hout : ¬ (layout ⟨0, 0, w, h⟩).Contains x y) :
    (m.render c ⟨0, 0, w, h⟩).cell? x y =
      if c.IsCutBy (layout ⟨0, 0, w, h⟩) x y then (c.cell? x y).map Cell.blanked
      else c.cell? x y := by
  obtain ⟨⟨hright, hrightc⟩, hbottom, hbottomc⟩ := layout_bounds hw hh hc
  have htandem := m.tandem_masked hw hh hc hwidth hheight hc
  rw [htandem.left.outside x y hout,
    cell?_fill hc.toned hc.aligned columns_space .normal (by omega) hrightc (by omega) hbottomc,
    if_neg hout]

end

end Modal

theorem compose_addOrReplace (frame : Frame) (log : Log.Body) {pages : Pages}
    (hpages : pages.contains Pages.modalName = false) (m : Modal) (w h : Nat) :
    compose frame log (pages.addOrReplace Pages.modalName (.modal m)) w h =
      m.render (compose frame log pages w h) (compose frame log pages w h).area := by
  rw [Pages.addOrReplace, if_neg (by decide), hpages, if_neg Bool.false_ne_true, compose,
    List.foldl_append]
  rfl

/-- A dialog that is shown and taken away leaves the board as it was. -/
theorem Board.picture_removeModal_showModal {b : Board}
    (hpages : b.pages.contains Pages.modalName = false) (m : Modal) :
    (b.showModal m).removeModal.picture = b.picture := by
  have hpages' : (b.showModal m).dropModal.1.pages = b.pages :=
    congrArg Prod.fst (Pages.remove_addOrReplace (by decide) hpages (.modal m))
  have hdropped : (b.showModal m).dropModal.1 = b.request :=
    calc (b.showModal m).dropModal.1
      _ = { b.request with pages := (b.showModal m).dropModal.1.pages } := rfl
      _ = b.request := by rw [hpages']; rfl
  rw [removeModal]
  cases hdrop : (b.showModal m).dropModal with
  | mk b' removed =>
      rw [hdrop] at hdropped
      cases hdropped
      cases removed <;> rfl

/-- In a box that is large enough the cells depend on the dialog alone, and outside only the outer
halves of characters that are cut by an edge of the box become blanks.  A smaller box changes
nothing, and a dialog that is shown and taken away leaves the picture as it was. -/
theorem modal_masks {w h : Nat} (hw : w < maxCoord) (hh : h < maxCoord) (m : Modal) {pages : Pages}
    (hpages : pages.contains Pages.modalName = false) :
    let box := Modal.layout ⟨0, 0, w, h⟩
    let bare := fun frame log => compose frame log pages w h
    let masked := fun frame log =>
      compose frame log (pages.addOrReplace Pages.modalName (.modal m)) w h
    (2 ≤ box.width ∧ 2 ≤ box.height →
      (∀ frame log frame' log' x y, box.Contains x y →
        (masked frame log).cell? x y = (masked frame' log').cell? x y) ∧
      ∀ frame log x y, ¬ box.Contains x y →
        (masked frame log).cell? x y =
          if (bare frame log).IsCutBy box x y then ((bare frame log).cell? x y).map Cell.blanked
          else (bare frame log).cell? x y) ∧
    (¬ (2 ≤ box.width ∧ 2 ≤ box.height) → ∀ frame log, masked frame log = bare frame log) ∧
    ∀ b : Board, b.pages = pages → (b.showModal m).removeModal.picture = b.picture := by
  intro box bare masked
  have hbare : ∀ frame log, IsPicture w h (bare frame log) := fun frame log =>
    isPicture_compose hw h frame log pages
  have hmasked : ∀ frame log, masked frame log = m.render (bare frame log) ⟨0, 0, w, h⟩ := by
    intro frame log
    rw [← (hbare frame log).area_eq]
    exact compose_addOrReplace frame log hpages m w h
  refine ⟨?_, ?_, ?_⟩
  · rintro ⟨hboxwidth, hboxheight⟩
    constructor
    · intro frame log frame' log' x y hin
      rw [hmasked, hmasked]
      have htandem :=
        m.tandem_masked hw hh (hbare frame log) hboxwidth hboxheight (hbare frame' log')
      exact htandem.agree x y hin
    · intro frame log x y hout
      rw [hmasked]
      exact m.cell?_masked hw hh (hbare frame log) hboxwidth hboxheight hout
  · intro hsmall frame log
    rw [hmasked]
    exact m.render_eq_self hsmall _
  · rintro b rfl
    exact Board.picture_removeModal_showModal hpages m

/-- A frame whose first two rows hold characters of two columns only. -/
def wideFrame : Frame :=
  ⟨[⟨[⟨"日日日日", .normal⟩], true, .left⟩, ⟨[⟨"日日日日", .label⟩], true, .left⟩], .empty⟩

/-- Both edges of the box cut a character, and both outer halves become blanks. -/
theorem modal_masks_wide :
    8 < maxCoord ∧ 4 < maxCoord ∧ Pages.base.contains Pages.modalName = false ∧
    Modal.layout ⟨0, 0, 8, 4⟩ = ⟨1, 1, 6, 2⟩ ∧
    let bare := compose wideFrame (.empty 5) .base 8 4
    let masked := fun frame => compose frame (.empty 5)
      (Pages.base.addOrReplace Pages.modalName (.modal ⟨"日", "", 0, 0⟩)) 8 4
    (bare.isWideAt 0 1 = true ∧ (masked wideFrame).cell? 0 1 = some ⟨' ', .label⟩) ∧
    (bare.isMarkAt 7 1 = true ∧ (masked wideFrame).cell? 7 1 = some ⟨' ', .label⟩) ∧
    (masked wideFrame).cell? 3 1 = (masked .empty).cell? 3 1 := by
  have hbase : Pages.base.contains Pages.modalName = false := by decide
  have hlayout : Modal.layout ⟨0, 0, 8, 4⟩ = ⟨1, 1, 6, 2⟩ := by decide
  obtain ⟨hlarge, -, -⟩ := modal_masks (show 8 < maxCoord by decide) (show 4 < maxCoord by decide)
    ⟨"日", "", 0, 0⟩ hbase
  obtain ⟨hinside, houtside⟩ := hlarge (by decide)
  refine ⟨by decide, by decide, hbase, hlayout, ⟨by decide +kernel, ?_⟩, ⟨by decide +kernel, ?_⟩,
    hinside _ _ _ _ 3 1 (by decide)⟩
  · rw [houtside _ _ 0 1 (by decide)]
    decide +kernel
  · rw [houtside _ _ 7 1 (by decide)]
    decide +kernel

end StatusBoard
