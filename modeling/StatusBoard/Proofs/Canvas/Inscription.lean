import StatusBoard.Proofs.Canvas.Outline

/-!
Texts on free cells.

A text that is written where no mark stands shows the characters that have room, each on the
columns it takes, and every other cell stays as it was.  Rows of text stand one below the other.
-/

namespace StatusBoard.Canvas

open Text

/-! ## What a text shows -/

/-- The cell that characters at their columns put on a column. -/
def letterAt (ps : List (Nat × Char)) (t : Tone) (x : Nat) : Option Cell :=
  ps.findSome? fun p =>
    if x = p.1 then some ⟨p.2, t⟩
    else if x = p.1 + 1 ∧ columns p.2 = 2 then some ⟨Cell.continuationMark, t⟩
    else none

/-- The cell that a text puts on a column, if it starts at another and is cut at a third. -/
def lettering (text : String) (t : Tone) (col limit x : Nat) : Option Cell :=
  letterAt (fitting col limit text.toList) t x

variable {c : Canvas} {x y col limit : Nat} {ch : Char} {rest text : List Char} {t : Tone}

theorem mem_fitting {p : Nat × Char} (hp : p ∈ fitting col limit text) :
    col ≤ p.1 ∧ p.1 + columns p.2 ≤ limit ∧ 0 < columns p.2 := by
  induction text generalizing col with
  | nil => cases hp
  | cons ch rest ih =>
      by_cases hzero : columns ch = 0
      · rw [fitting_cons_of_zero hzero] at hp
        exact ih hp
      · by_cases hfits : col + columns ch ≤ limit
        · rw [fitting_cons_of_le hzero hfits] at hp
          rcases List.mem_cons.mp hp with rfl | hp
          · exact ⟨Nat.le_refl col, hfits, Nat.pos_of_ne_zero hzero⟩
          · have := ih hp
            omega
        · rw [fitting_cons_of_lt hzero (by omega)] at hp
          cases hp

theorem letterAt_cons (p : Nat × Char) (ps : List (Nat × Char)) (t : Tone) (x : Nat) :
    letterAt (p :: ps) t x = (letterAt [p] t x).or (letterAt ps t x) :=
  (List.findSome?_append : List.findSome? _ ([p] ++ ps) = _)

theorem letterAt_eq_none {ps : List (Nat × Char)}
    (h : ∀ p ∈ ps, 0 < columns p.2 ∧ (x < p.1 ∨ p.1 + columns p.2 ≤ x)) (t : Tone) :
    letterAt ps t x = none := by
  rw [letterAt, List.findSome?_eq_none_iff]
  intro p hp
  have := h p hp
  rw [if_neg (by omega), if_neg (by omega)]

theorem letterAt_singleton_eq_none (hpos : 0 < columns ch) (hx : x < col ∨ col + columns ch ≤ x)
    (t : Tone) : letterAt [(col, ch)] t x = none := by
  apply letterAt_eq_none
  intro p hp
  rw [List.mem_singleton.mp hp]
  exact ⟨hpos, hx⟩

theorem letterAt_fitting_eq_none (hx : x < col ∨ limit ≤ x) (text : List Char) (t : Tone) :
    letterAt (fitting col limit text) t x = none := by
  apply letterAt_eq_none
  intro p hp
  have := mem_fitting hp
  omega

theorem lettering_eq_none (hx : x < col ∨ limit ≤ x) (text : String) (t : Tone) :
    lettering text t col limit x = none :=
  letterAt_fitting_eq_none hx text.toList t

/-- A text of characters of one column has one on each column. -/
theorem letterAt_fitting_of_narrow (h : ∀ ch ∈ text, columns ch = 1) {i : Nat}
    (hi : col + i < limit) (t : Tone) :
    letterAt (fitting col limit text) t (col + i) = text[i]?.map (⟨·, t⟩) := by
  induction text generalizing col i with
  | nil => rfl
  | cons ch rest ih =>
      have hone : columns ch = 1 := h ch List.mem_cons_self
      rw [fitting_cons_of_le (by omega) (by omega), letterAt_cons, hone]
      cases i with
      | zero =>
          have hfirst : letterAt [(col, ch)] t (col + 0) = some ⟨ch, t⟩ := by
            rw [letterAt, List.findSome?_singleton]
            exact if_pos rfl
          rw [hfirst]
          rfl
      | succ i =>
          rw [letterAt_singleton_eq_none (by omega) (by omega), Option.none_or,
            show col + (i + 1) = col + 1 + i by omega,
            ih (fun ch hch => h ch (List.mem_cons_of_mem _ hch)) (by omega)]
          rfl

/-! ## Writing it -/

/-- A character on free cells takes its own cells and nothing else changes. -/
theorem Free.cell?_setChar (h : c.Free col (limit + 1) y (y + 1)) (hpos : 0 < columns ch)
    (hfits : col + columns ch ≤ limit) (t : Tone) (x : Nat) :
    (c.setChar col y ch t).cell? x y = (letterAt [(col, ch)] t x).or (c.cell? x y) := by
  have hwidth := h.right_le
  have hheight := h.bottom_le
  have hmark : ∀ x, col ≤ x → x ≤ limit → c.isMarkAt x y = false := fun x hx hx' =>
    h.unmarked x y hx (by omega) (Nat.le_refl y) (Nat.lt_succ_self y)
  have hfirst : c.clearOverlap col y = c :=
    clearOverlap_eq_self (hmark _ (by omega) (by omega)) (hmark _ (by omega) (by omega))
  rw [letterAt, List.findSome?_singleton, Canvas.setChar]
  by_cases htwo : columns ch = 2
  · have hsecond : c.clearOverlap (col + 1) y = c :=
      clearOverlap_eq_self (hmark _ (by omega) (by omega)) (hmark _ (by omega) (by omega))
    rw [if_pos htwo, setWide, hfirst, hsecond, cell?_write, cell?_write, width_write, height_write]
    by_cases hx : x = col
    · rw [if_neg (by omega), if_pos (by omega), if_pos hx]
      rfl
    · by_cases hx' : x = col + 1
      · rw [if_pos (by omega), if_neg hx, if_pos ⟨hx', htwo⟩]
        rfl
      · rw [if_neg (by omega), if_neg (by omega), if_neg hx, if_neg (by omega)]
        rfl
  · rw [if_neg htwo, Canvas.set, hfirst, cell?_write]
    by_cases hx : x = col
    · rw [if_pos (by omega), if_pos hx]
      rfl
    · rw [if_neg (by omega), if_neg hx, if_neg fun h => htwo h.2]
      rfl

/-- A text on free cells shows its characters as far as there is room, and nothing else changes. -/
theorem Free.cell?_putChars (h : c.Free col (limit + 1) y (y + 1)) (hmax : limit < maxCoord)
    (t : Tone) (text : List Char) (x : Nat) :
    (c.putChars col y t limit text).1.cell? x y =
      (letterAt (fitting col limit text) t x).or (c.cell? x y) := by
  induction text generalizing c col with
  | nil => rfl
  | cons ch rest ih =>
      rw [putChars_cons]
      by_cases hzero : columns ch = 0
      · rw [if_pos hzero, fitting_cons_of_zero hzero]
        exact ih h
      · rw [if_neg hzero]
        by_cases hfits : col + columns ch ≤ limit
        · have hroom : ¬ limit < addCoord col (columns ch) := by
            unfold addCoord
            omega
          have hpos : 0 < columns ch := Nat.pos_of_ne_zero hzero
          have hcell := h.cell?_setChar hpos hfits t
          have hfree : (c.setChar col y ch t).Free (col + columns ch) (limit + 1) y (y + 1) := by
            refine ⟨by simpa using h.right_le, by simpa using h.bottom_le, ?_⟩
            intro x' y' hx hx' hy hy'
            obtain rfl : y' = y := by omega
            rw [isMarkAt, hcell, letterAt_singleton_eq_none hpos (.inr hx), Option.none_or,
              ← isMarkAt]
            exact h.unmarked x' y' (by omega) hx' hy hy'
          rw [if_neg hroom, fitting_cons_of_le hzero hfits, ih hfree, hcell,
            letterAt_cons (col, ch) (fitting (col + columns ch) limit rest)]
          by_cases hx : x < col + columns ch
          · rw [letterAt_fitting_eq_none (.inl hx), Option.none_or, Option.or_none]
          · rw [letterAt_singleton_eq_none hpos (.inr (by omega)), Option.none_or, Option.none_or]
        · have hfull : limit < addCoord col (columns ch) := by
            unfold addCoord
            omega
          rw [if_pos hfull, fitting_cons_of_lt hzero (by omega)]
          rfl

/-- The same of a text within the canvas. -/
theorem Free.cell?_putText (h : c.Free col (limit + 1) y (y + 1)) (hmax : limit < maxCoord)
    (text : String) (t : Tone) (x : Nat) :
    (c.putText col y text t limit).1.cell? x y =
      (lettering text t col limit x).or (c.cell? x y) := by
  have hwidth := h.right_le
  rw [putText_eq, Nat.min_eq_left (by omega)]
  exact h.cell?_putChars hmax t text.toList x

/-- Where no two marks stand side by side a text shows its characters as well, and they stay when
the row is written on behind them. -/
theorem Spaced.kept_of_letterAt (h : c.Spaced y) (hy : y < c.height) (hwidth : limit ≤ c.width)
    {k : Cell} (hk : letterAt (fitting col limit text) t x = some k) :
    (c.putChars col y t limit text).1.Kept x y (c.putChars col y t limit text).2 (some k) := by
  obtain ⟨p, hp, hcell⟩ := List.exists_of_findSome?_eq_some hk
  obtain ⟨hfirst, hsecond⟩ := h.kept_putChars hy hwidth t hp
  split at hcell
  · rename_i hx
    rw [hx, ← hcell]
    exact hfirst
  · split at hcell
    · rename_i hx
      rw [hx.1, ← hcell]
      exact hsecond hx.2
    · cases hcell

/-! ## Rows of text -/

/-- Write rows of text one below the other, each in its tone. -/
def putRows (c : Canvas) (area : Rect) (y : Nat) : List (String × Tone) → Canvas
  | [] => c
  | row :: rest => (c.putText area.x y row.1 row.2 area.right).1.putRows area (y + 1) rest

theorem OnlyRows.putRows (c : Canvas) (area : Rect) (y : Nat) (rows : List (String × Tone)) :
    OnlyRows y (y + rows.length) c (c.putRows area y rows) := by
  induction rows generalizing c y with
  | nil => exact OnlyRows.refl y y c
  | cons row rest ih =>
      rw [List.length_cons, Canvas.putRows]
      refine (OnlyRows.putText ?_ c area.x row.1 row.2 area.right).trans ((ih _ (y + 1)).mono ?_ ?_)
      · omega
      · omega
      · omega

/-- Rows of text on free cells are shown one below the other, and nothing else changes. -/
theorem Free.cell?_putRows {area : Rect} {rows : List (String × Tone)}
    (h : c.Free area.x (area.right + 1) y (y + rows.length)) (hmax : area.right < maxCoord)
    (i x : Nat) :
    (c.putRows area y rows).cell? x (y + i) =
      (rows[i]?.bind fun row => lettering row.1 row.2 area.x area.right x).or
        (c.cell? x (y + i)) := by
  induction rows generalizing c y i with
  | nil => rfl
  | cons first rest ih =>
      rw [List.length_cons] at h
      have hfirst : OnlyRows y (y + 1) c (c.putText area.x y first.1 first.2 area.right).1 :=
        OnlyRows.putText (by omega) c area.x first.1 first.2 area.right
      rw [putRows]
      cases i with
      | zero =>
          have hrow : c.Free area.x (area.right + 1) y (y + 1) :=
            h.mono (Nat.le_refl _) (Nat.le_refl _) (Nat.le_refl _) (by omega)
          rw [(OnlyRows.putRows _ area (y + 1) rest).other x (y + 0) (by omega)]
          exact hrow.cell?_putText hmax first.1 first.2 x
      | succ i =>
          have hbelow : c.Free area.x (area.right + 1) (y + 1) (y + 1 + rest.length) :=
            h.mono (Nat.le_refl _) (Nat.le_refl _) (Nat.le_succ y) (by omega)
          rw [show y + (i + 1) = y + 1 + i by omega, ih (hbelow.of_onlyRows hfirst (by omega)),
            hfirst.other x (y + 1 + i) (by omega)]
          rfl

/-! ## Characters next to a text -/

namespace Stands

variable {k : Cell} {a b : Nat}

theorem setChar (h : c.Stands x y k) (hpos : 0 < columns ch)
    (hout : b = y → x < a ∨ a + columns ch ≤ x) (t : Tone) : (c.setChar a b ch t).Stands x y k := by
  have hmark : (Cell.mk ch t).isContinuation = false := Cell.not_isContinuation_of_columns hpos
  rw [Canvas.setChar]
  split
  · have hcleared := (h.clearOverlap a b).clearOverlap (a + 1) b
    rw [setWide]
    refine (hcleared.write (by omega) fun hcont => ?_).write (by omega) fun _ => by omega
    rw [hmark] at hcont
    cases hcont
  · exact h.set hpos (by omega) t

theorem putChars (h : c.Stands x y k) (hmax : limit < maxCoord) (hout : b = y → x < a ∨ limit ≤ x)
    (t : Tone) (text : List Char) : (c.putChars a b t limit text).1.Stands x y k := by
  induction text generalizing c a with
  | nil => exact h
  | cons ch rest ih =>
      rw [putChars_cons]
      split
      · exact ih h hout
      · rename_i hzero
        split
        · exact h
        · rename_i hroom
          have hfits : a + columns ch ≤ limit := by
            unfold addCoord at hroom
            omega
          exact ih (h.setChar (Nat.pos_of_ne_zero hzero) (by omega) t) (by omega)

theorem putText (h : c.Stands x y k) (hmax : limit < maxCoord) (hout : b = y → x < a ∨ limit ≤ x)
    (text : String) (t : Tone) : (c.putText a b text t limit).1.Stands x y k :=
  h.putChars (by omega) (by omega) t text.toList

/-- What stands above or below rows of text is kept, and so is what stands left or right of them. -/
theorem putRows (h : c.Stands x y k) {area : Rect} (hmax : area.right < maxCoord)
    (rows : List (String × Tone))
    (hout : b ≤ y → y < b + rows.length → x < area.x ∨ area.right ≤ x) :
    (c.putRows area b rows).Stands x y k := by
  induction rows generalizing c b with
  | nil => exact h
  | cons row rest ih =>
      rw [List.length_cons] at hout
      refine ih (h.putText hmax (fun hrow => ?_) row.1 row.2) fun htop hbottom => ?_
      · exact hout (by omega) (by omega)
      · exact hout (by omega) (by omega)

end Stands

/-! ## Texts on equal rows -/

/-- Two canvases of one size have the same cells in a row. -/
structure SameRow (c d : Canvas) (y : Nat) : Prop where
  extent_eq : d.extent = c.extent
  cell : ∀ x, d.cell? x y = c.cell? x y

theorem OnlyRows.sameRow {d : Canvas} {top bottom : Nat} (h : OnlyRows top bottom c d)
    (hy : y < top ∨ bottom ≤ y) : SameRow c d y := ⟨h.extent_eq, fun x => h.other x y hy⟩

namespace SameRow

variable {d : Canvas}

theorem trans {e : Canvas} (h : SameRow c d y) (h' : SameRow d e y) : SameRow c e y :=
  ⟨h'.extent_eq.trans h.extent_eq, fun x => (h'.cell x).trans (h.cell x)⟩

theorem write (h : SameRow c d y) (x : Nat) (k : Cell) :
    SameRow (c.write x y k) (d.write x y k) y := by
  obtain ⟨hwidth, hheight⟩ : d.width = c.width ∧ d.height = c.height := Prod.mk.inj h.extent_eq
  refine ⟨?_, fun x' => ?_⟩
  · rw [extent, extent, width_write, height_write, width_write, height_write, hwidth, hheight]
  · rw [cell?_write, cell?_write, hwidth, hheight, h.cell x']

theorem clearOverlap (h : SameRow c d y) (x : Nat) :
    SameRow (c.clearOverlap x y) (d.clearOverlap x y) y := by
  unfold Canvas.clearOverlap
  rw [h.cell x, h.cell (x - 1), h.cell (x + 1)]
  repeat' split
  all_goals first
    | exact h
    | exact h.write _ _

theorem setChar (h : SameRow c d y) (x : Nat) (ch : Char) (t : Tone) :
    SameRow (c.setChar x y ch t) (d.setChar x y ch t) y := by
  rw [Canvas.setChar, Canvas.setChar]
  split
  · exact (((h.clearOverlap x).clearOverlap (x + 1)).write x _).write (x + 1) _
  · exact (h.clearOverlap x).write x _

/-- A text takes the same columns and has the same cells if it is written on equal rows. -/
theorem putChars (h : SameRow c d y) (col : Nat) (t : Tone) (limit : Nat) (text : List Char) :
    SameRow (c.putChars col y t limit text).1 (d.putChars col y t limit text).1 y ∧
      (d.putChars col y t limit text).2 = (c.putChars col y t limit text).2 := by
  induction text generalizing c d col with
  | nil => exact ⟨h, rfl⟩
  | cons ch rest ih =>
      rw [putChars_cons, putChars_cons]
      split
      · exact ih h col
      · split
        · exact ⟨h, rfl⟩
        · exact ih (h.setChar col ch t) _

theorem putText (h : SameRow c d y) (x : Nat) (text : String) (t : Tone) (limit : Nat) :
    SameRow (c.putText x y text t limit).1 (d.putText x y text t limit).1 y ∧
      (d.putText x y text t limit).2 = (c.putText x y text t limit).2 := by
  have hwidth : d.width = c.width := congrArg Prod.fst h.extent_eq
  rw [putText_eq, putText_eq, hwidth]
  obtain ⟨hrow, hcol⟩ := h.putChars x t (min limit c.width) text.toList
  exact ⟨hrow, congrArg (· - x) hcol⟩

theorem rowText_eq (h : SameRow c d y) (hy : y < c.height) : d.rowText y = c.rowText y := by
  have hheight : d.height = c.height := congrArg Prod.snd h.extent_eq
  have hrow : d.row y = c.row y := by
    apply List.ext_getElem?
    intro x
    rw [getElem?_row hy, getElem?_row (hheight ▸ hy), h.cell x]
  rw [rowText, rowText, hrow]

end SameRow

end StatusBoard.Canvas
