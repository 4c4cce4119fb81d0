import StatusBoard.Proofs.Canvas.Covering

/-!
Drawing within a region.

If no character reaches over an edge of a region, nothing that is drawn within the region changes a
cell outside it or depends on one.  Such drawing is therefore followed on two canvases at once.
-/

namespace StatusBoard

open Text

namespace Canvas

/-- A canvas after changes within a region, over whose left and right edge no character reaches. -/
structure Inside (r : Rect) (c d : Canvas) : Prop where
  width_eq : d.width = c.width
  height_eq : d.height = c.height
  start : ∀ y, r.y ≤ y → y < r.bottom → d.isMarkAt r.x y = false
  stop : ∀ y, r.y ≤ y → y < r.bottom → d.isMarkAt r.right y = false
  outside : ∀ x y, ¬ r.Contains x y → d.cell? x y = c.cell? x y

/-- Two canvases after the same changes within a region, in which they are equal. -/
structure Tandem (r : Rect) (c c' d d' : Canvas) : Prop where
  left : Inside r c d
  right : Inside r c' d'
  width_eq : d.width = d'.width
  height_eq : d.height = d'.height
  agree : ∀ x y, r.Contains x y → d.cell? x y = d'.cell? x y

variable {r : Rect} {c c' d d' : Canvas}

theorem Inside.write (h : Inside r c d) {x y : Nat} (hin : r.Contains x y) {k : Cell}
    (hk : x = r.x → k.isContinuation = false) : Inside r c (d.write x y k) := by
  obtain ⟨hleft, hright, hrow⟩ := hin
  constructor
  · exact (width_write ..).trans h.width_eq
  · exact (height_write ..).trans h.height_eq
  · intro y' htop hbottom
    rw [isMarkAt_write]
    split
    · rename_i hat
      exact hk hat.1.symm
    · exact h.start y' htop hbottom
  · intro y' htop hbottom
    rw [isMarkAt_write_of_ne _ _ (by omega)]
    exact h.stop y' htop hbottom
  · intro x' y' hout
    rw [cell?_write, if_neg]
    · exact h.outside x' y' hout
    · rintro ⟨rfl, rfl, -⟩
      exact hout ⟨hleft, hright, hrow⟩

namespace Tandem

theorem write (h : Tandem r c c' d d') {x y : Nat} (hin : r.Contains x y) {k : Cell}
    (hk : x = r.x → k.isContinuation = false) :
    Tandem r c c' (d.write x y k) (d'.write x y k) := by
  refine ⟨h.left.write hin hk, h.right.write hin hk, ?_, ?_, ?_⟩
  · rw [width_write, width_write, h.width_eq]
  · rw [height_write, height_write, h.height_eq]
  · intro x' y' hin'
    rw [cell?_write, cell?_write, h.width_eq, h.height_eq, h.agree x' y' hin']

theorem isMarkAt_eq (h : Tandem r c c' d d') {x y : Nat} (hin : r.Contains x y) :
    d.isMarkAt x y = d'.isMarkAt x y := by
  rw [isMarkAt, isMarkAt, h.agree x y hin]

/-- The cell right of one in the region is in the region too, or a mark stands there on neither
canvas. -/
theorem isMarkAt_succ_eq (h : Tandem r c c' d d') {x y : Nat} (hin : r.Contains x y) :
    d.isMarkAt (x + 1) y = d'.isMarkAt (x + 1) y := by
  obtain ⟨hleft, hright, htop, hbottom⟩ := hin
  by_cases hx : x + 1 = r.right
  · rw [hx, h.left.stop y htop hbottom, h.right.stop y htop hbottom]
  · exact h.isMarkAt_eq ⟨by omega, by omega, htop, hbottom⟩

theorem clearOverlap (h : Tandem r c c' d d') {x y : Nat} (hin : r.Contains x y) :
    Tandem r c c' (d.clearOverlap x y) (d'.clearOverlap x y) := by
  have hmark := h.isMarkAt_eq hin
  have hnext := h.isMarkAt_succ_eq hin
  obtain ⟨hleft, hright, htop, hbottom⟩ := hin
  have hstart : d.isMarkAt x y = true → x ≠ r.x := by
    rintro hm rfl
    rw [h.left.start y htop hbottom] at hm
    cases hm
  rcases d.clearOverlap_cases x y with
    ⟨hm, hx, -⟩ | ⟨hm, hx, k, hk, he⟩ | ⟨hm, hn, k, hk, he⟩ | ⟨hm, hn, he⟩
  · exact absurd (hstart hm) (by omega)
  · have hne := hstart hm
    have hbefore : r.Contains (x - 1) y := ⟨by omega, by omega, htop, hbottom⟩
    rw [he, clearOverlap_of_isMarkAt (hmark ▸ hm) hx (h.agree _ _ hbefore ▸ hk)]
    exact h.write hbefore fun _ => rfl
  · have hne : x + 1 ≠ r.right := by
      intro hx
      rw [hx, h.left.stop y htop hbottom] at hn
      cases hn
    have hafter : r.Contains (x + 1) y := ⟨by omega, by omega, htop, hbottom⟩
    rw [he, clearOverlap_of_isMarkAt_succ (hmark ▸ hm) (hnext ▸ hn)
      (h.agree _ _ ⟨hleft, hright, htop, hbottom⟩ ▸ hk)]
    exact h.write hafter fun _ => rfl
  · rw [he, clearOverlap_eq_self (hmark ▸ hm) (hnext ▸ hn)]
    exact h

theorem set (h : Tandem r c c' d d') {x y : Nat} (hin : r.Contains x y) {ch : Char} (t : Tone)
    (h0 : 0 < columns ch) : Tandem r c c' (d.set x y ch t) (d'.set x y ch t) :=
  (h.clearOverlap hin).write hin fun _ => Cell.not_isContinuation_of_columns h0

theorem setWide (h : Tandem r c c' d d') {x y : Nat} (hin : r.Contains x y)
    (hin' : r.Contains (x + 1) y) {ch : Char} (t : Tone) (h0 : 0 < columns ch) :
    Tandem r c c' (d.setWide x y ch t) (d'.setWide x y ch t) := by
  have hcleared := (h.clearOverlap hin).clearOverlap hin'
  refine (hcleared.write hin fun _ => Cell.not_isContinuation_of_columns h0).write hin' ?_
  intro hx
  exact absurd hin.1 (by omega)

theorem foldl {α : Type} {f : Canvas → α → Canvas} (h : Tandem r c c' d d') {as : List α}
    (hf : ∀ a ∈ as, ∀ e e', Tandem r c c' e e' → Tandem r c c' (f e a) (f e' a)) :
    Tandem r c c' (as.foldl f d) (as.foldl f d') := by
  induction as generalizing d d' with
  | nil => exact h
  | cons a as ih =>
      exact ih (hf a (List.mem_cons_self ..) d d' h) fun b hb => hf b (List.mem_cons_of_mem a hb)

theorem setChar (h : Tandem r c c' d d') {x y : Nat} {ch : Char} (hpos : 0 < columns ch)
    (hleft : r.x ≤ x) (hright : x + columns ch ≤ r.right) (htop : r.y ≤ y)
    (hbottom : y < r.bottom) (t : Tone) :
    Tandem r c c' (d.setChar x y ch t) (d'.setChar x y ch t) := by
  rw [Canvas.setChar, Canvas.setChar]
  split
  · exact h.setWide ⟨hleft, by omega, htop, hbottom⟩ ⟨by omega, by omega, htop, hbottom⟩ t hpos
  · exact h.set ⟨hleft, by omega, htop, hbottom⟩ t hpos

/-- A text stays within the region if it starts and ends there. -/
theorem putChars (h : Tandem r c c' d d') {col y limit : Nat} (hcol : r.x ≤ col)
    (hlimit : limit ≤ r.right) (hright : r.right < maxCoord) (htop : r.y ≤ y)
    (hbottom : y < r.bottom) (t : Tone) (text : List Char) :
    Tandem r c c' (d.putChars col y t limit text).1 (d'.putChars col y t limit text).1 := by
  induction text generalizing d d' col with
  | nil => exact h
  | cons ch rest ih =>
      rw [putChars_cons, putChars_cons]
      split
      · exact ih h hcol
      · rename_i hzero
        split
        · exact h
        · rename_i hfits
          have hsum : col + columns ch ≤ limit := by
            unfold addCoord at hfits
            omega
          refine ih (h.setChar ?_ hcol ?_ htop hbottom t) (by omega)
          · exact Nat.pos_of_ne_zero hzero
          · exact Nat.le_trans hsum hlimit

theorem putText (h : Tandem r c c' d d') {x y limit : Nat} (hx : r.x ≤ x)
    (hlimit : limit ≤ r.right) (hright : r.right < maxCoord) (htop : r.y ≤ y)
    (hbottom : y < r.bottom) (text : String) (t : Tone) :
    Tandem r c c' (d.putText x y text t limit).1 (d'.putText x y text t limit).1 := by
  rw [Canvas.putText, Canvas.putText, h.width_eq]
  exact h.putChars hx (by omega) hright htop hbottom t text.toList

theorem setRun (h : Tandem r c c' d d') {start stop y : Nat} (hstart : r.x ≤ start)
    (hstop : stop ≤ r.right) (htop : r.y ≤ y) (hbottom : y < r.bottom) {ch : Char} (t : Tone)
    (h0 : 0 < columns ch) :
    Tandem r c c' (d.setRun start stop y ch t) (d'.setRun start stop y ch t) := by
  apply h.foldl
  intro x hx e e' he
  rw [List.mem_range'_1] at hx
  exact he.set ⟨by omega, by omega, htop, hbottom⟩ t h0

/-! ## Boxes around the region -/

section

variable (h : Tandem r c c' d d') (hright : r.x + r.width < maxCoord)
  (hbottom : r.y + r.height < maxCoord)

include h hright hbottom

theorem drawBorder (hwidth : 2 ≤ r.width) (hheight : 2 ≤ r.height) :
    Tandem r c c' (d.drawBorder r) (d'.drawBorder r) := by
  have hright' : r.right = r.x + r.width := addCoord_eq (by omega)
  have hbottom' : r.bottom = r.y + r.height := addCoord_eq (by omega)
  have hset : ∀ {e e' : Canvas} {x y : Nat} {ch : Char}, ch ∈ furniture → r.x ≤ x → x < r.right →
      r.y ≤ y → y < r.bottom → Tandem r c c' e e' →
      Tandem r c c' (e.set x y ch .border) (e'.set x y ch .border) := by
    intro e e' x y ch hch hx hx' hy hy' he
    exact he.set ⟨hx, hx', hy, hy'⟩ .border (by rw [columns_furniture ch hch]; decide)
  refine hset (by decide) (by omega) (by omega) (by omega) (by omega) ?_
  refine hset (by decide) (by omega) (by omega) (by omega) (by omega) ?_
  refine hset (by decide) (by omega) (by omega) (by omega) (by omega) ?_
  refine hset (by decide) (by omega) (by omega) (by omega) (by omega) ?_
  refine foldl (foldl h ?_) ?_
  · intro x hx e e' he
    rw [List.mem_range'_1] at hx
    refine hset (by decide) (by omega) (by omega) (by omega) (by omega) ?_
    exact hset (by decide) (by omega) (by omega) (by omega) (by omega) he
  · intro y hy e e' he
    rw [List.mem_range'_1] at hy
    refine hset (by decide) (by omega) (by omega) (by omega) (by omega) ?_
    exact hset (by decide) (by omega) (by omega) (by omega) (by omega) he

theorem drawTitle (hwidth : 2 ≤ r.width) (hheight : 2 ≤ r.height) (title : String) :
    Tandem r c c' (d.drawTitle r title) (d'.drawTitle r title) := by
  have hright' : r.right = r.x + r.width := addCoord_eq (by omega)
  have hbottom' : r.bottom = r.y + r.height := addCoord_eq (by omega)
  exact h.putText (by omega) (by omega) (by omega) (Nat.le_refl _) (by omega) title .title

theorem drawBox (title : Option String) :
    Tandem r c c' (d.drawBox r title) (d'.drawBox r title) := by
  unfold Canvas.drawBox
  split
  · exact h
  · rename_i hsize
    rw [Bool.or_eq_true, decide_eq_true_eq, decide_eq_true_eq, not_or] at hsize
    have hborder := h.drawBorder hright hbottom (by omega) (by omega)
    split
    · exact hborder
    · split
      · exact hborder
      · exact hborder.drawTitle hright hbottom (by omega) (by omega) _

omit hbottom in
theorem drawSeparator {y : Nat} (htop : r.y ≤ y) (hy : y < r.bottom) :
    Tandem r c c' (d.drawSeparator r y) (d'.drawSeparator r y) := by
  have hright' : r.right = r.x + r.width := addCoord_eq (by omega)
  have hcolumns : ∀ {ch : Char}, ch ∈ furniture → 0 < columns ch := fun {ch} hch => by
    rw [columns_furniture ch hch]
    decide
  unfold Canvas.drawSeparator
  split
  · exact h
  · refine Tandem.set ?_ ⟨by omega, by omega, htop, hy⟩ _ (hcolumns (by decide))
    refine Tandem.setRun ?_ (by omega) (by omega) htop hy _ (hcolumns (by decide))
    exact h.set ⟨by omega, by omega, htop, hy⟩ _ (hcolumns (by decide))

end

end Tandem

/-! ## Covering the region -/

theorem inside_fill (hc : c.Toned) (halign : c.Aligned) {ch : Char} (h1 : columns ch = 1)
    (t : Tone) (hx : r.x < r.right) (hright : r.right ≤ c.width) (hy : r.y ≤ r.bottom)
    (hbottom : r.bottom ≤ c.height) : Inside r (c.fill r ch t) (c.fill r ch t) := by
  have hcell := cell?_fill hc halign h1 t hx hright hy hbottom
  refine ⟨rfl, rfl, ?_, ?_, fun _ _ _ => rfl⟩
  · intro y htop hlast
    have hin : r.Contains r.x y := ⟨Nat.le_refl _, hx, htop, hlast⟩
    rw [isMarkAt, hcell, if_pos hin]
    exact Cell.not_isContinuation_of_columns (by simp only; omega)
  · intro y htop hlast
    have hout : ¬ r.Contains r.right y := fun hin => absurd hin.2.1 (Nat.lt_irrefl _)
    rw [isMarkAt, hcell, if_neg hout]
    split
    · cases c.cell? r.right y <;> rfl
    · rename_i hcut
      have hmark : ¬ c.isMarkAt r.right y = true := fun hm =>
        hcut ⟨⟨htop, hlast⟩, .inr ⟨rfl, hm⟩⟩
      exact Bool.eq_false_iff.mpr hmark

/-- Filling a region makes two canvases equal there. -/
theorem tandem_fill (hc : c.Toned) (halign : c.Aligned) (hc' : c'.Toned) (halign' : c'.Aligned)
    (hwidth : c.width = c'.width) (hheight : c.height = c'.height) {ch : Char}
    (h1 : columns ch = 1) (t : Tone) (hx : r.x < r.right) (hright : r.right ≤ c.width)
    (hy : r.y ≤ r.bottom) (hbottom : r.bottom ≤ c.height) :
    Tandem r (c.fill r ch t) (c'.fill r ch t) (c.fill r ch t) (c'.fill r ch t) := by
  have hsize : ∀ e : Canvas, Draws (fun _ => True) e (e.fill r ch t) := fun e =>
    Draws.refl.fill r t h1 trivial
  constructor
  · exact inside_fill hc halign h1 t hx hright hy hbottom
  · exact inside_fill hc' halign' h1 t hx (hwidth ▸ hright) hy (hheight ▸ hbottom)
  · rw [(hsize c).width_eq, (hsize c').width_eq, hwidth]
  · rw [(hsize c).height_eq, (hsize c').height_eq, hheight]
  · intro x y hin
    rw [cell?_fill hc halign h1 t hx hright hy hbottom, if_pos hin,
      cell?_fill hc' halign' h1 t hx (hwidth ▸ hright) hy (hheight ▸ hbottom), if_pos hin]

end Canvas

end StatusBoard
