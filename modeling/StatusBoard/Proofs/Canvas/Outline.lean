import StatusBoard.Proofs.Canvas.Covering
import StatusBoard.Proofs.Canvas.Extent
import StatusBoard.Proofs.Canvas.Lettering

/-!
Outlines: boxes and separators, cell by cell.

On cells without marks a character of one column changes its own cell and no other, so an outline
drawn there has its characters at its places and leaves the rest as it was.  Where marks stand, but
not side by side, the outline still has its characters, because none of them is cut by the next.
-/

namespace StatusBoard

open Text

namespace Canvas

variable {c d : Canvas} {x y a b : Nat} {ch : Char} {t : Tone} {k : Cell}

/-! ## Rows that are drawn on -/

/-- A canvas comes from another by drawing on rows from `top` up to but not including `bottom`. -/
structure OnlyRows (top bottom : Nat) (c d : Canvas) : Prop where
  extent_eq : d.extent = c.extent
  other : ∀ x y, y < top ∨ bottom ≤ y → d.cell? x y = c.cell? x y

namespace OnlyRows

variable {top bottom : Nat}

theorem refl (top bottom : Nat) (c : Canvas) : OnlyRows top bottom c c := ⟨rfl, fun _ _ _ => rfl⟩

theorem width_eq (h : OnlyRows top bottom c d) : d.width = c.width := congrArg Prod.fst h.extent_eq

theorem height_eq (h : OnlyRows top bottom c d) : d.height = c.height :=
  congrArg Prod.snd h.extent_eq

theorem trans {e : Canvas} (h : OnlyRows top bottom c d) (h' : OnlyRows top bottom d e) :
    OnlyRows top bottom c e :=
  ⟨h'.extent_eq.trans h.extent_eq, fun x y hy => (h'.other x y hy).trans (h.other x y hy)⟩

theorem mono {top' bottom' : Nat} (h : OnlyRows top bottom c d) (htop : top' ≤ top)
    (hbottom : bottom ≤ bottom') : OnlyRows top' bottom' c d :=
  ⟨h.extent_eq, fun x y hy => h.other x y (by omega)⟩

theorem isMarkAt_eq (h : OnlyRows top bottom c d) (x : Nat) (hy : y < top ∨ bottom ≤ y) :
    d.isMarkAt x y = c.isMarkAt x y := by
  rw [isMarkAt, h.other x y hy, isMarkAt]

theorem foldl {α : Type} {f : Canvas → α → Canvas} {as : List α}
    (hf : ∀ e, ∀ p ∈ as, OnlyRows top bottom e (f e p)) (c : Canvas) :
    OnlyRows top bottom c (as.foldl f c) := by
  induction as generalizing c with
  | nil => exact refl top bottom c
  | cons p as ih =>
      refine (hf c p List.mem_cons_self).trans (ih (fun e q hq => ?_) (f c p))
      exact hf e q (List.mem_cons_of_mem p hq)

theorem write (hy : top ≤ y ∧ y < bottom) (c : Canvas) (x : Nat) (k : Cell) :
    OnlyRows top bottom c (c.write x y k) := by
  refine ⟨by simp [extent], fun x' y' hy' => ?_⟩
  rw [cell?_write, if_neg (by omega)]

theorem clearOverlap (hy : top ≤ y ∧ y < bottom) (c : Canvas) (x : Nat) :
    OnlyRows top bottom c (c.clearOverlap x y) := by
  rcases c.clearOverlap_cases x y with
    ⟨-, -, he⟩ | ⟨-, -, k, -, he⟩ | ⟨-, -, k, -, he⟩ | ⟨-, -, he⟩
  · rw [he]
    exact refl top bottom c
  · rw [he]
    exact write hy c _ _
  · rw [he]
    exact write hy c _ _
  · rw [he]
    exact refl top bottom c

theorem set (hy : top ≤ y ∧ y < bottom) (c : Canvas) (x : Nat) (ch : Char) (t : Tone) :
    OnlyRows top bottom c (c.set x y ch t) :=
  (clearOverlap hy c x).trans (write hy _ x _)

theorem setWide (hy : top ≤ y ∧ y < bottom) (c : Canvas) (x : Nat) (ch : Char) (t : Tone) :
    OnlyRows top bottom c (c.setWide x y ch t) :=
  ((clearOverlap hy c x).trans (clearOverlap hy _ _)).trans ((write hy _ x _).trans (write hy _ _ _))

theorem setChar (hy : top ≤ y ∧ y < bottom) (c : Canvas) (x : Nat) (ch : Char) (t : Tone) :
    OnlyRows top bottom c (c.setChar x y ch t) := by
  rw [Canvas.setChar]
  split
  · exact setWide hy c x ch t
  · exact set hy c x ch t

theorem putChars (hy : top ≤ y ∧ y < bottom) (c : Canvas) (col : Nat) (t : Tone) (limit : Nat)
    (text : List Char) : OnlyRows top bottom c (c.putChars col y t limit text).1 := by
  induction text generalizing c col with
  | nil => exact refl top bottom c
  | cons ch rest ih =>
      rw [putChars_cons]
      split
      · exact ih c col
      · split
        · exact refl top bottom c
        · exact (setChar hy c col ch t).trans (ih _ _)

theorem putText (hy : top ≤ y ∧ y < bottom) (c : Canvas) (x : Nat) (text : String) (t : Tone)
    (limit : Nat) : OnlyRows top bottom c (c.putText x y text t limit).1 :=
  putChars hy c x t _ text.toList

end OnlyRows

/-! ## Cells without marks -/

/-- Cells of the canvas, from column `left` up to but not including `right` and from row `top` up
to but not including `bottom`, on none of which a mark stands. -/
structure Free (c : Canvas) (left right top bottom : Nat) : Prop where
  right_le : right ≤ c.width
  bottom_le : bottom ≤ c.height
  unmarked : ∀ x y, left ≤ x → x < right → top ≤ y → y < bottom → c.isMarkAt x y = false

section

variable {left right top bottom : Nat}

theorem Free.mono (h : c.Free left right top bottom) {left' right' top' bottom' : Nat}
    (hleft : left ≤ left') (hright : right' ≤ right) (htop : top ≤ top')
    (hbottom : bottom' ≤ bottom) : c.Free left' right' top' bottom' := by
  refine ⟨Nat.le_trans hright h.right_le, Nat.le_trans hbottom h.bottom_le, ?_⟩
  intro x y hx hx' hy hy'
  exact h.unmarked x y (by omega) (by omega) (by omega) (by omega)

theorem Free.of_onlyRows (h : c.Free left right top bottom) {top' bottom' : Nat}
    (hd : OnlyRows top' bottom' c d) (hrows : bottom' ≤ top ∨ bottom ≤ top') :
    d.Free left right top bottom := by
  refine ⟨hd.width_eq ▸ h.right_le, hd.height_eq ▸ h.bottom_le, ?_⟩
  intro x y hx hx' hy hy'
  rw [hd.isMarkAt_eq x (by omega)]
  exact h.unmarked x y hx hx' hy hy'

theorem isMarkAt_set_eq_false (hmark : c.isMarkAt x y = false) (h0 : 0 < columns ch) (a b : Nat)
    (t : Tone) : (c.set a b ch t).isMarkAt x y = false := by
  have hmarks : ∀ {e : Canvas} {x' y' : Nat} {k : Cell}, k.isContinuation = false →
      e.isMarkAt x y = false → (e.write x' y' k).isMarkAt x y = false := by
    intro e x' y' k hk he
    rw [isMarkAt_write]
    split
    · exact hk
    · exact he
  apply hmarks (Cell.not_isContinuation_of_columns h0)
  rcases c.clearOverlap_cases a b with
    ⟨-, -, he⟩ | ⟨-, -, k, -, he⟩ | ⟨-, -, k, -, he⟩ | ⟨-, -, he⟩
  · rwa [he]
  · rw [he]
    exact hmarks (isContinuation_space k.tone) hmark
  · rw [he]
    exact hmarks (isContinuation_space k.tone) hmark
  · rwa [he]

theorem Free.set (h : c.Free left right top bottom) (h0 : 0 < columns ch) (a b : Nat) (t : Tone) :
    (c.set a b ch t).Free left right top bottom := by
  refine ⟨by simpa using h.right_le, by simpa using h.bottom_le, ?_⟩
  intro x y hx hx' hy hy'
  exact isMarkAt_set_eq_false (h.unmarked x y hx hx' hy hy') h0 a b t

/-- Where no mark stands a character of one column changes its own cell and no other. -/
theorem Free.cell?_set (h : c.Free left right top bottom) (ha : left ≤ a ∧ a < right)
    (hb : top ≤ b ∧ b < bottom) (hx : left ≤ x ∧ x < right) (hy : top ≤ y ∧ y < bottom) (ch : Char)
    (t : Tone) :
    (c.set a b ch t).cell? x y = if x = a ∧ y = b then some ⟨ch, t⟩ else c.cell? x y := by
  have hmark := h.unmarked a b ha.1 ha.2 hb.1 hb.2
  have hcleared : (c.clearOverlap a b).cell? x y = c.cell? x y := by
    rcases c.clearOverlap_cases a b with
      ⟨hm, -⟩ | ⟨hm, -⟩ | ⟨-, hn, k, -, he⟩ | ⟨-, -, he⟩
    · rw [hmark] at hm
      cases hm
    · rw [hmark] at hm
      cases hm
    · rw [he, cell?_write, if_neg]
      rintro ⟨rfl, rfl, -⟩
      rw [h.unmarked (a + 1) y hx.1 hx.2 hy.1 hy.2] at hn
      cases hn
    · rw [he]
  have hright := h.right_le
  have hbottom := h.bottom_le
  rw [Canvas.set, cell?_write, hcleared, width_clearOverlap, height_clearOverlap]
  by_cases hat : x = a ∧ y = b
  · rw [if_pos ⟨hat.1, hat.2, by omega, by omega⟩, if_pos hat]
  · rw [if_neg (fun hin => hat ⟨hin.1, hin.2.1⟩), if_neg hat]

end

/-! ## Characters that cannot be cut -/

/-- A character stands on a cell and no mark right of it, so it is not cut when something else is
written. -/
structure Stands (c : Canvas) (x y : Nat) (k : Cell) : Prop where
  cell : c.cell? x y = some k
  whole : k.isContinuation = false
  next : c.isMarkAt (x + 1) y = false

/-- The marks of some rows do not stand side by side. -/
def SpacedRows (c : Canvas) (top bottom : Nat) : Prop := ∀ y, top ≤ y → y < bottom → c.Spaced y

namespace Stands

theorem isMarkAt_eq (h : c.Stands x y k) : c.isMarkAt x y = false :=
  (isMarkAt_of_cell? h.cell).trans h.whole

theorem write (h : c.Stands x y k) {l : Cell} (hat : b = y → a ≠ x)
    (hmark : l.isContinuation = true → b = y → a ≠ x + 1) : (c.write a b l).Stands x y k := by
  refine ⟨?_, h.whole, ?_⟩
  · rw [cell?_write, if_neg]
    · exact h.cell
    · rintro ⟨rfl, rfl, -⟩
      exact hat rfl rfl
  · rw [isMarkAt_write]
    split
    · rename_i hin
      apply Bool.eq_false_iff.mpr
      intro hl
      exact hmark hl hin.2.1.symm hin.1.symm
    · exact h.next

theorem clearOverlap (h : c.Stands x y k) (a b : Nat) : (c.clearOverlap a b).Stands x y k := by
  rcases c.clearOverlap_cases a b with
    ⟨-, -, he⟩ | ⟨hm, hpos, l, -, he⟩ | ⟨-, hn, l, -, he⟩ | ⟨-, -, he⟩
  · rwa [he]
  · rw [he]
    apply h.write
    · rintro rfl rfl
      have hnext := h.next
      rw [Nat.sub_add_cancel hpos, hm] at hnext
      cases hnext
    · intro hl
      cases hl
  · rw [he]
    apply h.write
    · rintro rfl rfl
      rw [h.isMarkAt_eq] at hn
      cases hn
    · intro hl
      cases hl
  · rwa [he]

theorem set (h : c.Stands x y k) (h0 : 0 < columns ch) (hat : b = y → a ≠ x) (t : Tone) :
    (c.set a b ch t).Stands x y k := by
  apply (h.clearOverlap a b).write hat
  intro hmark
  rw [Cell.not_isContinuation_of_columns h0] at hmark
  cases hmark

end Stands

theorem SpacedRows.set {top bottom : Nat} (h : c.SpacedRows top bottom) (h0 : 0 < columns ch)
    (a b : Nat) (t : Tone) : (c.set a b ch t).SpacedRows top bottom := by
  intro y htop hbottom
  by_cases hy : y = b
  · subst hy
    exact ((h y htop hbottom).clearOverlap a).1.write a (Cell.not_isContinuation_of_columns h0)
  · have hother := OnlyRows.set (show b ≤ b ∧ b < b + 1 by omega) c a ch t
    refine (h y htop hbottom).of_imp fun x hmark => ?_
    rwa [hother.isMarkAt_eq x (by omega)] at hmark

/-- A character that is written stands if the cell and the one right of it do not both have a mark.
-/
theorem Spaced.stands_set (h : c.Spaced b) (h0 : 0 < columns ch) (ha : a < c.width)
    (hb : b < c.height) (t : Tone) : (c.set a b ch t).Stands a b ⟨ch, t⟩ := by
  refine ⟨?_, Cell.not_isContinuation_of_columns h0, ?_⟩
  · rw [Canvas.set, cell?_write, if_pos (by simp [ha, hb])]
  · rw [Canvas.set, isMarkAt_write_of_ne _ _ (by omega)]
    exact (h.clearOverlap a).2

/-! ## Characters at their places -/

/-- A character at its place. -/
structure Placed where
  x : Nat
  y : Nat
  ch : Char

/-- Write characters at their places, all in one tone. -/
def setAll (c : Canvas) (ps : List Placed) (t : Tone) : Canvas :=
  ps.foldl (fun c p => c.set p.x p.y p.ch t) c

section

variable {ps : List Placed} {left right top bottom : Nat}

theorem OnlyRows.setAll (hps : ∀ p ∈ ps, top ≤ p.y ∧ p.y < bottom) (c : Canvas) (t : Tone) :
    OnlyRows top bottom c (c.setAll ps t) :=
  OnlyRows.foldl (fun e p hp => OnlyRows.set (hps p hp) e p.x p.ch t) c

/-- On free cells the characters have their places and nothing else changes. -/
theorem Free.setAll (h : c.Free left right top bottom)
    (hps : ∀ p ∈ ps, (left ≤ p.x ∧ p.x < right) ∧ (top ≤ p.y ∧ p.y < bottom) ∧ 0 < columns p.ch)
    (t : Tone) :
    (c.setAll ps t).Free left right top bottom ∧
      ∀ x y, left ≤ x ∧ x < right → top ≤ y ∧ y < bottom →
        (∃ ch, ⟨x, y, ch⟩ ∈ ps ∧ (c.setAll ps t).cell? x y = some ⟨ch, t⟩) ∨
        (∀ ch, ⟨x, y, ch⟩ ∉ ps) ∧ (c.setAll ps t).cell? x y = c.cell? x y := by
  induction ps generalizing c with
  | nil => exact ⟨h, fun x y _ _ => .inr ⟨fun ch => List.not_mem_nil, rfl⟩⟩
  | cons p ps ih =>
      obtain ⟨hpx, hpy, h0⟩ := hps p List.mem_cons_self
      obtain ⟨hfree, hcells⟩ := ih (h.set h0 p.x p.y t) fun q hq => hps q (List.mem_cons_of_mem p hq)
      refine ⟨hfree, fun x y hx hy => ?_⟩
      have hset := h.cell?_set hpx hpy hx hy p.ch t
      rcases hcells x y hx hy with ⟨ch, hmem, hcell⟩ | ⟨hnot, hcell⟩
      · exact .inl ⟨ch, List.mem_cons_of_mem p hmem, hcell⟩
      · rw [hset] at hcell
        by_cases hat : x = p.x ∧ y = p.y
        · rw [if_pos hat] at hcell
          obtain ⟨rfl, rfl⟩ := hat
          exact .inl ⟨p.ch, List.mem_cons_self, hcell⟩
        · rw [if_neg hat] at hcell
          refine .inr ⟨fun ch hmem => ?_, hcell⟩
          rcases List.mem_cons.mp hmem with heq | hmem
          · exact hat ⟨congrArg Placed.x heq, congrArg Placed.y heq⟩
          · exact hnot ch hmem

theorem Stands.setAll (h : c.Stands x y k) (hps : ∀ p ∈ ps, 0 < columns p.ch)
    (hnot : ∀ ch, ⟨x, y, ch⟩ ∉ ps) (t : Tone) : (c.setAll ps t).Stands x y k := by
  induction ps generalizing c with
  | nil => exact h
  | cons p ps ih =>
      refine ih (h.set (hps p List.mem_cons_self) ?_ t)
        (fun q hq => hps q (List.mem_cons_of_mem p hq))
        fun ch hmem => hnot ch (List.mem_cons_of_mem p hmem)
      rintro rfl rfl
      exact hnot p.ch List.mem_cons_self

/-- Where no two marks stand side by side each place has one of its characters in the end. -/
theorem SpacedRows.stands_setAll (h : c.SpacedRows top bottom)
    (hps : ∀ p ∈ ps, p.x < c.width ∧ p.y < c.height ∧ (top ≤ p.y ∧ p.y < bottom) ∧
      0 < columns p.ch) (t : Tone) (hmem : ∃ ch, ⟨x, y, ch⟩ ∈ ps) :
    ∃ ch, ⟨x, y, ch⟩ ∈ ps ∧ (c.setAll ps t).Stands x y ⟨ch, t⟩ := by
  induction ps generalizing c with
  | nil =>
      obtain ⟨ch, hch⟩ := hmem
      cases hch
  | cons p ps ih =>
      obtain ⟨hpx, hpy, hrow, h0⟩ := hps p List.mem_cons_self
      have hrest : ∀ q ∈ ps, 0 < columns q.ch := fun q hq =>
        (hps q (List.mem_cons_of_mem p hq)).2.2.2
      by_cases hlater : ∃ ch, ⟨x, y, ch⟩ ∈ ps
      · obtain ⟨ch, hch, hstands⟩ := ih (h.set h0 p.x p.y t)
          (fun q hq => by simpa using hps q (List.mem_cons_of_mem p hq)) hlater
        exact ⟨ch, List.mem_cons_of_mem p hch, hstands⟩
      · obtain ⟨ch, hch⟩ := hmem
        rcases List.mem_cons.mp hch with rfl | hch
        · refine ⟨ch, List.mem_cons_self, ?_⟩
          have hfirst := (h y hrow.1 hrow.2).stands_set h0 hpx hpy t
          exact hfirst.setAll hrest (fun ch' hmem => hlater ⟨ch', hmem⟩) t
        · exact absurd ⟨ch, hch⟩ hlater

end

end Canvas

/-! ## Boxes and separators -/

namespace Rect

open Canvas

variable {r : Rect} {x y y' : Nat} {ch : Char}

/-- The character that a box around a region has at a place; none inside. -/
def edge? (r : Rect) (x y : Nat) : Option Char :=
  if y = r.y then some (if x = r.x then '┌' else if x = r.right - 1 then '┐' else '─')
  else if y = r.bottom - 1 then
    some (if x = r.x then '└' else if x = r.right - 1 then '┘' else '─')
  else if x = r.x ∨ x = r.right - 1 then some '│'
  else none

/-- The cell that an empty box around a region has at a place. -/
def boxed (r : Rect) (x y : Nat) : Cell := ((r.edge? x y).map (⟨·, .border⟩)).getD Cell.blank

/-- The character that a separator across a region has in a column. -/
def joint (r : Rect) (x : Nat) : Char :=
  if x = r.x then '├' else if x = r.right - 1 then '┤' else '─'

/-- The characters of a box in the order they are written. -/
def border (r : Rect) : List Placed :=
  let right := r.right - 1
  let bottom := r.bottom - 1
  (List.range' (r.x + 1) (right - (r.x + 1))).flatMap
      (fun x => [⟨x, r.y, '─'⟩, ⟨x, bottom, '─'⟩]) ++
    (List.range' (r.y + 1) (bottom - (r.y + 1))).flatMap
      (fun y => [⟨r.x, y, '│'⟩, ⟨right, y, '│'⟩]) ++
    [⟨r.x, r.y, '┌'⟩, ⟨right, r.y, '┐'⟩, ⟨r.x, bottom, '└'⟩, ⟨right, bottom, '┘'⟩]

/-- The characters of a separator in the order they are written. -/
def separator (r : Rect) (y : Nat) : List Placed :=
  let right := r.right - 1
  ⟨r.x, y, '├'⟩ :: (List.range' (r.x + 1) (right - (r.x + 1))).map (⟨·, y, '─'⟩) ++
    [⟨right, y, '┤'⟩]

theorem mem_border_iff (hx : r.x + 2 ≤ r.right) (hy : r.y + 2 ≤ r.bottom) :
    ⟨x, y, ch⟩ ∈ r.border ↔ r.Contains x y ∧ r.edge? x y = some ch := by
  simp only [border, List.mem_append, List.mem_flatMap, List.mem_range'_1, List.mem_cons,
    List.not_mem_nil, or_false, Placed.mk.injEq, Contains, edge?, and_or_left, exists_or,
    ← and_assoc, exists_eq_right', exists_and_right]
  grind

theorem mem_separator_iff (hx : r.x + 2 ≤ r.right) :
    ⟨x, y', ch⟩ ∈ r.separator y ↔ (r.x ≤ x ∧ x < r.right) ∧ y' = y ∧ r.joint x = ch := by
  simp only [separator, List.mem_append, List.mem_map, List.mem_range'_1, List.mem_cons,
    List.not_mem_nil, or_false, Placed.mk.injEq, joint, ← and_assoc, exists_eq_right,
    exists_and_right]
  grind

/-- A region of a canvas whose sides are in the range of coordinates. -/
structure Within (r : Rect) (c : Canvas) : Prop where
  right_le : r.x + r.width ≤ c.width
  bottom_le : r.y + r.height ≤ c.height
  width_le : c.width ≤ maxCoord
  height_le : c.height ≤ maxCoord

/-- No edge of a region of a canvas, and none of the region inside a box, is cut short. -/
theorem Within.edges {c : Canvas} (h : r.Within c) (hwidth : 2 ≤ r.width) (hheight : 2 ≤ r.height) :
    (r.right = r.x + r.width ∧ r.bottom = r.y + r.height) ∧
    (r.inner.x = r.x + 1 ∧ r.inner.right = r.right - 1 ∧ r.inner.width = r.width - 2) ∧
    (r.inner.y = r.y + 1 ∧ r.inner.bottom = r.bottom - 1 ∧ r.inner.height = r.height - 2) := by
  obtain ⟨hright, hbottom, hmax, hmax'⟩ := h
  have hx : r.inner.x = r.x + 1 := addCoord_eq (by omega)
  have hy : r.inner.y = r.y + 1 := addCoord_eq (by omega)
  have hw : r.inner.width = r.width - 2 := rfl
  have hh : r.inner.height = r.height - 2 := rfl
  have hright' : r.right = r.x + r.width := addCoord_eq (by omega)
  have hbottom' : r.bottom = r.y + r.height := addCoord_eq (by omega)
  have hinner : r.inner.right = r.inner.x + r.inner.width := addCoord_eq (by omega)
  have hinner' : r.inner.bottom = r.inner.y + r.inner.height := addCoord_eq (by omega)
  omega

theorem edge?_mem_furniture (h : r.edge? x y = some ch) : ch ∈ furniture := by
  simp only [edge?] at h
  repeat' split at h
  all_goals cases h
  all_goals decide

theorem edge?_corners (hx : r.right - 1 ≠ r.x) (hy : r.bottom - 1 ≠ r.y) :
    r.edge? r.x r.y = some '┌' ∧ r.edge? (r.right - 1) r.y = some '┐' ∧
      r.edge? r.x (r.bottom - 1) = some '└' ∧ r.edge? (r.right - 1) (r.bottom - 1) = some '┘' := by
  simp only [edge?, hx, hy, if_true, if_false, and_self]

theorem edge?_upper (hleft : x ≠ r.x) (hright : x ≠ r.right - 1) : r.edge? x r.y = some '─' := by
  rw [edge?, if_pos rfl, if_neg hleft, if_neg hright]

theorem edge?_lower (hleft : x ≠ r.x) (hright : x ≠ r.right - 1) (hlow : r.bottom - 1 ≠ r.y) :
    r.edge? x (r.bottom - 1) = some '─' := by
  rw [edge?, if_neg hlow, if_pos rfl, if_neg hleft, if_neg hright]

theorem edge?_side (htop : y ≠ r.y) (hbottom : y ≠ r.bottom - 1) (hx : x = r.x ∨ x = r.right - 1) :
    r.edge? x y = some '│' := by
  rw [edge?, if_neg htop, if_neg hbottom, if_pos hx]

theorem boxed_of_edge? (h : r.edge? x y = some ch) : r.boxed x y = ⟨ch, .border⟩ := by
  rw [boxed, h]
  rfl

theorem boxed_inside (hleft : x ≠ r.x) (hright : x ≠ r.right - 1) (htop : y ≠ r.y)
    (hbottom : y ≠ r.bottom - 1) : r.boxed x y = Cell.blank := by
  rw [boxed, edge?, if_neg htop, if_neg hbottom, if_neg (not_or.mpr ⟨hleft, hright⟩)]
  rfl

theorem joint_ends (hx : r.right - 1 ≠ r.x) : r.joint r.x = '├' ∧ r.joint (r.right - 1) = '┤' := by
  simp only [joint, hx, if_true, if_false, and_self]

theorem joint_between (hleft : x ≠ r.x) (hright : x ≠ r.right - 1) : r.joint x = '─' := by
  rw [joint, if_neg hleft, if_neg hright]

theorem joint_mem_furniture (r : Rect) (x : Nat) : r.joint x ∈ furniture := by
  unfold joint
  repeat' split
  all_goals decide

end Rect

namespace Canvas

variable {c : Canvas} {r : Rect} {x y : Nat}

theorem drawBorder_eq (c : Canvas) (r : Rect) : c.drawBorder r = c.setAll r.border .border := by
  simp only [drawBorder, setAll, Rect.border, List.foldl_append, List.foldl_flatMap,
    List.foldl_cons, List.foldl_nil]

theorem drawSeparator_eq (hwidth : 2 ≤ r.width) (c : Canvas) (y : Nat) :
    c.drawSeparator r y = c.setAll (r.separator y) .border := by
  simp only [drawSeparator, if_neg (Nat.not_lt.mpr hwidth), setAll, setRun, Rect.separator,
    List.foldl_append, List.foldl_map, List.foldl_cons, List.foldl_nil]

section

variable (hx : r.x + 2 ≤ r.right)

include hx

theorem OnlyRows.drawSeparator (hwidth : 2 ≤ r.width) (c : Canvas) (y : Nat) :
    OnlyRows y (y + 1) c (c.drawSeparator r y) := by
  rw [drawSeparator_eq hwidth]
  refine OnlyRows.setAll (fun p hp => ?_) c .border
  have := (Rect.mem_separator_iff hx).mp hp
  omega

/-- A separator on free cells takes its row and changes nothing else. -/
theorem Free.cell?_drawSeparator (h : c.Free r.x r.right y (y + 1)) (hwidth : 2 ≤ r.width)
    (hin : r.x ≤ x ∧ x < r.right) :
    (c.drawSeparator r y).cell? x y = some ⟨r.joint x, .border⟩ := by
  rw [drawSeparator_eq hwidth]
  have hplaces : ∀ p ∈ r.separator y, (r.x ≤ p.x ∧ p.x < r.right) ∧ (y ≤ p.y ∧ p.y < y + 1) ∧
      0 < columns p.ch := by
    intro p hp
    obtain ⟨hpx, hpy, hch⟩ := (Rect.mem_separator_iff hx).mp hp
    refine ⟨hpx, by omega, ?_⟩
    rw [← hch, columns_furniture _ (r.joint_mem_furniture p.x)]
    decide
  rcases (h.setAll hplaces .border).2 x y hin (by omega) with ⟨ch, hmem, hcell⟩ | ⟨hnot, -⟩
  · rw [hcell, ((Rect.mem_separator_iff hx).mp hmem).2.2]
  · exact absurd ((Rect.mem_separator_iff hx).mpr ⟨hin, rfl, rfl⟩) (hnot _)

variable (hy : r.y + 2 ≤ r.bottom)

include hy

theorem mem_border_bounds : ∀ p ∈ r.border,
    (r.x ≤ p.x ∧ p.x < r.right) ∧ (r.y ≤ p.y ∧ p.y < r.bottom) ∧ 0 < columns p.ch := by
  intro p hp
  obtain ⟨⟨hleft, hright, htop, hbottom⟩, hch⟩ := (Rect.mem_border_iff hx hy).mp hp
  refine ⟨⟨hleft, hright⟩, ⟨htop, hbottom⟩, ?_⟩
  rw [columns_furniture _ (Rect.edge?_mem_furniture hch)]
  decide

theorem OnlyRows.drawBorder (c : Canvas) : OnlyRows r.y r.bottom c (c.drawBorder r) := by
  rw [drawBorder_eq]
  exact OnlyRows.setAll (fun p hp => (mem_border_bounds hx hy p hp).2.1) c .border

/-- A box on free cells has its characters around the region, and what is inside stays. -/
theorem Free.drawBorder (h : c.Free r.x r.right r.y r.bottom) :
    (c.drawBorder r).Free r.x r.right r.y r.bottom ∧ ∀ x y, r.Contains x y →
      (c.drawBorder r).cell? x y = ((r.edge? x y).map (⟨·, .border⟩)).or (c.cell? x y) := by
  rw [drawBorder_eq]
  obtain ⟨hfree, hcells⟩ := h.setAll (mem_border_bounds hx hy) .border
  refine ⟨hfree, fun x y hin => ?_⟩
  rcases hcells x y ⟨hin.1, hin.2.1⟩ hin.2.2 with ⟨ch, hmem, hcell⟩ | ⟨hnot, hcell⟩
  · rw [hcell, ((Rect.mem_border_iff hx hy).mp hmem).2]
    rfl
  · have hnone : r.edge? x y = none := by
      apply Option.eq_none_iff_forall_ne_some.mpr
      intro ch hch
      exact hnot ch ((Rect.mem_border_iff hx hy).mpr ⟨hin, hch⟩)
    rw [hcell, hnone]
    rfl

/-- A box on blanks is empty. -/
theorem cell?_drawBorder_of_blank (hright : r.right ≤ c.width) (hbottom : r.bottom ≤ c.height)
    (hblank : ∀ x y, r.Contains x y → c.cell? x y = some Cell.blank) :
    (c.drawBorder r).Free r.x r.right r.y r.bottom ∧
      ∀ x y, r.Contains x y → (c.drawBorder r).cell? x y = some (r.boxed x y) := by
  have hfree : c.Free r.x r.right r.y r.bottom := by
    refine ⟨hright, hbottom, fun x y hleft hright htop hbottom => ?_⟩
    exact isMarkAt_of_cell? (hblank x y ⟨hleft, hright, htop, hbottom⟩)
  obtain ⟨hdrawn, hcells⟩ := hfree.drawBorder hx hy
  refine ⟨hdrawn, fun x y hin => ?_⟩
  rw [hcells x y hin, hblank x y hin, Option.or_some, Rect.boxed]

/-- A box has its characters wherever no two marks stand side by side. -/
theorem SpacedRows.stands_drawBorder (h : c.SpacedRows r.y r.bottom) (hright : r.right ≤ c.width)
    (hbottom : r.bottom ≤ c.height) {ch : Char} (hin : r.Contains x y)
    (hch : r.edge? x y = some ch) : (c.drawBorder r).Stands x y ⟨ch, .border⟩ := by
  rw [drawBorder_eq]
  have hplaces : ∀ p ∈ r.border, p.x < c.width ∧ p.y < c.height ∧ (r.y ≤ p.y ∧ p.y < r.bottom) ∧
      0 < columns p.ch := by
    intro p hp
    obtain ⟨hpx, hpy, h0⟩ := mem_border_bounds hx hy p hp
    exact ⟨by omega, by omega, hpy, h0⟩
  obtain ⟨ch', hmem, hstands⟩ :=
    h.stands_setAll hplaces .border ⟨ch, (Rect.mem_border_iff hx hy).mpr ⟨hin, hch⟩⟩
  have hsame := ((Rect.mem_border_iff hx hy).mp hmem).2
  rw [hch, Option.some.injEq] at hsame
  rwa [hsame]

end

/-! ## Blanks -/

theorem cell?_set_space {t : Tone} (h : c.cell? x y = some ⟨' ', t⟩) (a b : Nat) :
    (c.set a b ' ' t).cell? x y = some ⟨' ', t⟩ := by
  have hcleared : (c.clearOverlap a b).cell? x y = some ⟨' ', t⟩ := by
    rcases c.clearOverlap_cases a b with
      ⟨-, -, he⟩ | ⟨-, -, k, hk, he⟩ | ⟨-, hn, k, -, he⟩ | ⟨-, -, he⟩
    · rw [he, h]
    · rw [he, cell?_write]
      split
      · rename_i hat
        rw [hat.1, hat.2.1, hk, Option.some.injEq] at h
        rw [h]
      · exact h
    · rw [he, cell?_write, if_neg]
      · exact h
      · rintro ⟨rfl, rfl, -⟩
        rw [isMarkAt_of_cell? h] at hn
        cases hn
    · rw [he, h]
  rw [set, cell?_write, hcleared, ite_self]

theorem cell?_setAll_space {ps : List Placed} {t : Tone} (hps : ∀ p ∈ ps, p.ch = ' ')
    (hx : x < c.width) (hy : y < c.height)
    (h : c.cell? x y = some ⟨' ', t⟩ ∨ ⟨x, y, ' '⟩ ∈ ps) :
    (c.setAll ps t).cell? x y = some ⟨' ', t⟩ := by
  induction ps generalizing c with
  | nil =>
      rcases h with hcell | hmem
      · exact hcell
      · cases hmem
  | cons p ps ih =>
      obtain ⟨a, b, ch⟩ := p
      obtain rfl : ch = ' ' := hps _ List.mem_cons_self
      refine ih (fun q hq => hps q (List.mem_cons_of_mem _ hq)) (by simpa using hx)
        (by simpa using hy) ?_
      change (c.set a b ' ' t).cell? x y = some ⟨' ', t⟩ ∨ _
      rcases h with hcell | hmem
      · exact .inl (cell?_set_space hcell a b)
      · rcases List.mem_cons.mp hmem with heq | hmem
        · obtain ⟨rfl, rfl, -⟩ := Placed.mk.inj heq
          left
          rw [set, cell?_write, if_pos (by simp [hx, hy])]
        · exact .inr hmem

/-- Filling a region with blanks leaves nothing else in it, whatever stood there. -/
theorem cell?_fill_space (hright : r.right ≤ c.width) (hbottom : r.bottom ≤ c.height)
    (hin : r.Contains x y) (t : Tone) : (c.fill r ' ' t).cell? x y = some ⟨' ', t⟩ := by
  obtain ⟨hleft, hright', htop, hbottom'⟩ := hin
  have hfill : c.fill r ' ' t = c.setAll ((List.range' r.y (r.bottom - r.y)).flatMap fun b =>
      (List.range' r.x (r.right - r.x)).map fun a => ⟨a, b, ' '⟩) t := by
    simp only [fill, setRun, setAll, List.foldl_flatMap, List.foldl_map, Nat.min_eq_left hright,
      Nat.min_eq_left hbottom]
  rw [hfill]
  apply cell?_setAll_space ?_ (by omega) (by omega)
  · right
    simp only [List.mem_flatMap, List.mem_map, List.mem_range'_1]
    exact ⟨y, by omega, x, by omega, rfl⟩
  · intro p hp
    simp only [List.mem_flatMap, List.mem_map] at hp
    obtain ⟨b, -, a, -, rfl⟩ := hp
    rfl

end Canvas

end StatusBoard
