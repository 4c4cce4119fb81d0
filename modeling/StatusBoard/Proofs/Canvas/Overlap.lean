import StatusBoard.Proofs.Canvas.WellFormed

/-!
Writing one character keeps a canvas aligned.

A write first clears what it would cut.  Between the two the cells to be overwritten form a `Gap`:
the boundaries inside it may be out of order, but no character reaches over either end.
-/

namespace StatusBoard.Canvas

open Text

theorem isMarkAt_off {c : Canvas} {x y : Nat} (h : ¬ (x < c.width ∧ y < c.height)) :
    c.isMarkAt x y = false := by
  rw [isMarkAt, cell?_eq_none h]
  rfl

theorem isWideAt_off {c : Canvas} {x y : Nat} (h : ¬ (x < c.width ∧ y < c.height)) :
    c.isWideAt x y = false := by
  rw [isWideAt, cell?_eq_none h]
  rfl

theorem isMarkAt_write (c : Canvas) (x y : Nat) (k : Cell) (x' y' : Nat) :
    (c.write x y k).isMarkAt x' y' =
      if x' = x ∧ y' = y ∧ x < c.width ∧ y < c.height then k.isContinuation
      else c.isMarkAt x' y' := by
  rw [isMarkAt, cell?_write]
  split <;> rfl

theorem isWideAt_write (c : Canvas) (x y : Nat) (k : Cell) (x' y' : Nat) :
    (c.write x y k).isWideAt x' y' =
      if x' = x ∧ y' = y ∧ x < c.width ∧ y < c.height then k.isWide
      else c.isWideAt x' y' := by
  rw [isWideAt, cell?_write]
  split <;> rfl

theorem isWideBefore_succ (c : Canvas) (x y : Nat) : c.isWideBefore (x + 1) y = c.isWideAt x y := by
  simp [isWideBefore]

/-- A cell other than the one left of the boundary has no say in what stands before it. -/
theorem isWideBefore_write_of_ne (c : Canvas) {x y x' y' : Nat} (k : Cell)
    (h : y' = y → x' ≠ x + 1) :
    (c.write x y k).isWideBefore x' y' = c.isWideBefore x' y' := by
  cases x' with
  | zero => rfl
  | succ x' =>
      rw [isWideBefore_succ, isWideBefore_succ, isWideAt_write, if_neg]
      rintro ⟨rfl, hy, -⟩
      exact h hy rfl

theorem isMarkAt_write_of_ne (c : Canvas) {x y x' y' : Nat} (k : Cell) (h : y' = y → x' ≠ x) :
    (c.write x y k).isMarkAt x' y' = c.isMarkAt x' y' := by
  rw [isMarkAt_write, if_neg]
  rintro ⟨hx, hy, -⟩
  exact h hy hx

/-- A cell that is no mark leaves no mark where it is written, on the canvas or off it. -/
theorem isMarkAt_write_self (c : Canvas) (x y : Nat) {k : Cell} (hk : k.isContinuation = false) :
    (c.write x y k).isMarkAt x y = false := by
  rw [isMarkAt_write]
  split
  · exact hk
  · rename_i h
    exact isMarkAt_off fun hin => h ⟨rfl, rfl, hin⟩

theorem isWideAt_write_self (c : Canvas) (x y : Nat) {k : Cell} (hk : k.isWide = false) :
    (c.write x y k).isWideAt x y = false := by
  rw [isWideAt_write]
  split
  · exact hk
  · rename_i h
    exact isWideAt_off fun hin => h ⟨rfl, rfl, hin⟩

theorem exists_of_isMarkAt {c : Canvas} {x y : Nat} (h : c.isMarkAt x y = true) :
    ∃ m, c.cell? x y = some m ∧ m.isContinuation = true := by
  rw [isMarkAt, Option.any_eq_true] at h
  exact h

theorem isWideAt_of_isMarkAt {c : Canvas} {x y : Nat} (h : c.isMarkAt x y = true) :
    c.isWideAt x y = false := by
  obtain ⟨k, hk, hmark⟩ := exists_of_isMarkAt h
  simp [isWideAt, hk, Cell.isWide, Cell.columns_of_isContinuation hmark]

theorem isContinuation_space (t : Tone) : (Cell.mk ' ' t).isContinuation = false := rfl

theorem isWide_space (t : Tone) : (Cell.mk ' ' t).isWide = false := by
  simp [Cell.isWide, columns_space]

/-- What clearing the other half does: it blanks the cell left of a mark, or the mark right of a
cell. -/
theorem clearOverlap_cases (c : Canvas) (x y : Nat) :
    (c.isMarkAt x y = true ∧ x = 0 ∧ c.clearOverlap x y = c) ∨
    (c.isMarkAt x y = true ∧ 0 < x ∧ ∃ k, c.cell? (x - 1) y = some k ∧
      c.clearOverlap x y = c.write (x - 1) y ⟨' ', k.tone⟩) ∨
    (c.isMarkAt x y = false ∧ c.isMarkAt (x + 1) y = true ∧ ∃ k, c.cell? x y = some k ∧
      c.clearOverlap x y = c.write (x + 1) y ⟨' ', k.tone⟩) ∨
    (c.isMarkAt x y = false ∧ c.isMarkAt (x + 1) y = false ∧ c.clearOverlap x y = c) := by
  cases hk : c.cell? x y with
  | none =>
      have hoff : ¬ (x < c.width ∧ y < c.height) := fun hin => by
        simpa [hk] using isSome_cell?.mpr hin
      refine Or.inr (Or.inr (Or.inr ⟨isMarkAt_off hoff, isMarkAt_off fun hin => hoff ?_, ?_⟩))
      · exact ⟨by omega, hin.2⟩
      · simp [clearOverlap, hk]
  | some k =>
      cases hmark : k.isContinuation with
      | true =>
          have hat : c.isMarkAt x y = true := by simp [isMarkAt, hk, hmark]
          by_cases hx : x = 0
          · exact Or.inl ⟨hat, hx, by simp [clearOverlap, hx, hx ▸ hk, hmark]⟩
          · have hin := lt_of_cell? hk
            obtain ⟨l, hl⟩ := Option.isSome_iff_exists.mp
              (isSome_cell?.mpr ⟨show x - 1 < c.width by omega, hin.2⟩)
            refine Or.inr (Or.inl ⟨hat, by omega, l, hl, ?_⟩)
            simp [clearOverlap, hk, hmark, hx, hl]
      | false =>
          have hat : c.isMarkAt x y = false := by simp [isMarkAt, hk, hmark]
          cases hn : c.isMarkAt (x + 1) y with
          | true =>
              refine Or.inr (Or.inr (Or.inl ⟨hat, rfl, k, rfl, ?_⟩))
              rw [isMarkAt, Option.any_eq_true] at hn
              obtain ⟨n, hn, hnmark⟩ := hn
              simp [clearOverlap, hk, hmark, hn, hnmark]
          | false =>
              refine Or.inr (Or.inr (Or.inr ⟨hat, rfl, ?_⟩))
              cases hn' : c.cell? (x + 1) y with
              | none => simp [clearOverlap, hk, hmark, hn']
              | some n =>
                  have : n.isContinuation = false := by simpa [isMarkAt, hn'] using hn
                  simp [clearOverlap, hk, hmark, hn', this]

theorem clearOverlap_of_isMarkAt {c : Canvas} {x y : Nat} {k : Cell} (hm : c.isMarkAt x y = true)
    (hx : 0 < x) (hk : c.cell? (x - 1) y = some k) :
    c.clearOverlap x y = c.write (x - 1) y ⟨' ', k.tone⟩ := by
  rcases c.clearOverlap_cases x y with
    ⟨-, rfl, -⟩ | ⟨-, -, l, hl, he⟩ | ⟨hm', -⟩ | ⟨hm', -⟩
  · exact absurd hx (by omega)
  · rw [hl, Option.some.injEq] at hk
    rw [he, hk]
  · exact absurd hm (by simp [hm'])
  · exact absurd hm (by simp [hm'])

theorem clearOverlap_of_isMarkAt_succ {c : Canvas} {x y : Nat} {k : Cell}
    (hm : c.isMarkAt x y = false) (hn : c.isMarkAt (x + 1) y = true)
    (hk : c.cell? x y = some k) :
    c.clearOverlap x y = c.write (x + 1) y ⟨' ', k.tone⟩ := by
  rcases c.clearOverlap_cases x y with
    ⟨hm', -⟩ | ⟨hm', -⟩ | ⟨-, -, l, hl, he⟩ | ⟨-, hn', -⟩
  · exact absurd hm (by simp [hm'])
  · exact absurd hm (by simp [hm'])
  · rw [hl, Option.some.injEq] at hk
    rw [he, hk]
  · exact absurd hn (by simp [hn'])

theorem clearOverlap_eq_self {c : Canvas} {x y : Nat} (hm : c.isMarkAt x y = false)
    (hn : c.isMarkAt (x + 1) y = false) : c.clearOverlap x y = c := by
  rcases c.clearOverlap_cases x y with ⟨hm', -⟩ | ⟨hm', -⟩ | ⟨-, hn', -⟩ | ⟨-, -, he⟩
  · exact absurd hm (by simp [hm'])
  · exact absurd hm (by simp [hm'])
  · exact absurd hn (by simp [hn'])
  · exact he

/-- The cells of row `y` from column `a` up to but not including `b` can be overwritten: every
other boundary is in order, and no character reaches over either end. -/
structure Gap (c : Canvas) (y a b : Nat) : Prop where
  boundary : ∀ x y', (y' = y → x < a ∨ b < x) → c.isMarkAt x y' = c.isWideBefore x y'
  start : c.isWideBefore a y = false
  stop : c.isMarkAt b y = false

theorem Aligned.gap_clearOverlap {c : Canvas} (h : c.Aligned) (x y : Nat) :
    (c.clearOverlap x y).Gap y x (x + 1) := by
  rcases c.clearOverlap_cases x y with
    ⟨hm, rfl, -⟩ | ⟨hm, hx, k, -, he⟩ | ⟨hm, hn, k, -, he⟩ | ⟨hm, hn, he⟩
  · rw [h] at hm
    simp [isWideBefore] at hm
  · -- the left half goes, and left of it no mark ended
    have hwide : c.isWideAt (x - 1) y = true := by
      rw [h, isWideBefore, Bool.and_eq_true] at hm
      exact hm.2
    have hleft : c.isMarkAt (x - 1) y = false := by
      cases hl : c.isMarkAt (x - 1) y with
      | false => rfl
      | true =>
          rw [isWideAt_of_isMarkAt hl] at hwide
          exact absurd hwide (by simp)
    rw [he]
    constructor
    · intro x' y' hout
      rw [isWideBefore_write_of_ne _ _ (by omega), ← h]
      by_cases hx' : x' = x - 1 ∧ y' = y
      · rw [hx'.1, hx'.2, isMarkAt_write_self _ _ _ (isContinuation_space k.tone), hleft]
      · exact isMarkAt_write_of_ne _ _ (by omega)
    · obtain ⟨x, rfl⟩ : ∃ n, x = n + 1 := ⟨x - 1, by omega⟩
      rw [isWideBefore_succ]
      exact isWideAt_write_self _ _ _ (isWide_space k.tone)
    · rw [isMarkAt_write_of_ne _ _ (by omega), h, isWideBefore_succ, isWideAt_of_isMarkAt hm]
  · -- the mark right of the cell goes, and no character of two columns stood on it
    have hright : c.isWideAt (x + 1) y = false := isWideAt_of_isMarkAt hn
    rw [he]
    constructor
    · intro x' y' hout
      rw [isMarkAt_write_of_ne _ _ (by omega), h]
      by_cases hx' : x' = x + 2 ∧ y' = y
      · rw [hx'.1, hx'.2, isWideBefore_succ, isWideBefore_succ, hright,
          isWideAt_write_self _ _ _ (isWide_space k.tone)]
      · exact (isWideBefore_write_of_ne _ _ (by omega)).symm
    · rw [isWideBefore_write_of_ne _ _ (by omega), ← h, hm]
    · exact isMarkAt_write_self _ _ _ (isContinuation_space k.tone)
  · rw [he]
    exact ⟨fun x' y' _ => h x' y', by rw [← h, hm], hn⟩

/-- A gap grows by one cell when what that cell would cut is cleared. -/
theorem Gap.clearOverlap {c : Canvas} {y a b : Nat} (h : c.Gap y a b) (hab : a ≤ b) :
    (c.clearOverlap b y).Gap y a (b + 1) := by
  have hnext : c.isMarkAt (b + 1) y = c.isWideAt b y := by
    rw [h.boundary _ _ (by omega), isWideBefore_succ]
  rcases c.clearOverlap_cases b y with ⟨hm, -⟩ | ⟨hm, -⟩ | ⟨-, hn, k, -, he⟩ | ⟨-, hn, he⟩
  · rw [h.stop] at hm
    exact absurd hm (by simp)
  · rw [h.stop] at hm
    exact absurd hm (by simp)
  · have hright : c.isWideAt (b + 1) y = false := isWideAt_of_isMarkAt hn
    rw [he]
    constructor
    · intro x' y' hout
      rw [isMarkAt_write_of_ne _ _ (by omega), h.boundary _ _ (by omega)]
      by_cases hx' : x' = b + 2 ∧ y' = y
      · rw [hx'.1, hx'.2, isWideBefore_succ, isWideBefore_succ, hright,
          isWideAt_write_self _ _ _ (isWide_space k.tone)]
      · exact (isWideBefore_write_of_ne _ _ (by omega)).symm
    · rw [isWideBefore_write_of_ne _ _ (by omega), h.start]
    · exact isMarkAt_write_self _ _ _ (isContinuation_space k.tone)
  · rw [he]
    exact ⟨fun x' y' hout => h.boundary x' y' (by omega), h.start, hn⟩

/-- A character that is not of two columns fills a gap of one cell. -/
theorem Gap.write {c : Canvas} {x y : Nat} (h : c.Gap y x (x + 1)) {k : Cell}
    (hmark : k.isContinuation = false) (hwide : k.isWide = false) : (c.write x y k).Aligned := by
  intro x' y'
  by_cases hy : y' = y
  · subst hy
    by_cases hx : x' = x
    · subst hx
      rw [isMarkAt_write_self _ _ _ hmark, isWideBefore_write_of_ne _ _ (by omega), h.start]
    · by_cases hx1 : x' = x + 1
      · subst hx1
        rw [isMarkAt_write_of_ne _ _ (by omega), h.stop, isWideBefore_succ,
          isWideAt_write_self _ _ _ hwide]
      · rw [isMarkAt_write_of_ne _ _ (by omega), isWideBefore_write_of_ne _ _ (by omega)]
        exact h.boundary x' y' (by omega)
  · rw [isMarkAt_write_of_ne _ _ (by omega), isWideBefore_write_of_ne _ _ (by omega)]
    exact h.boundary x' y' (by omega)

/-- A character of two columns and its mark fill a gap of two cells. -/
theorem Gap.write_wide {c : Canvas} {x y : Nat} (h : c.Gap y x (x + 2)) {k m : Cell}
    (hk : k.isWide = true) (hm : m.isContinuation = true) (hx : x + 1 < c.width)
    (hy : y < c.height) : ((c.write x y k).write (x + 1) y m).Aligned := by
  have hkmark : k.isContinuation = false :=
    Cell.not_isContinuation_of_columns (by simp [Cell.isWide] at hk; omega)
  have hmwide : m.isWide = false := by simp [Cell.isWide, Cell.columns_of_isContinuation hm]
  intro x' y'
  by_cases hyy : y' = y
  · subst hyy
    by_cases hx0 : x' = x
    · subst hx0
      rw [isMarkAt_write_of_ne _ _ (by omega), isMarkAt_write_self _ _ _ hkmark,
        isWideBefore_write_of_ne _ _ (by omega), isWideBefore_write_of_ne _ _ (by omega), h.start]
    · by_cases hx1 : x' = x + 1
      · subst hx1
        rw [isMarkAt_write, if_pos (by simp; omega), hm, isWideBefore_succ, isWideAt_write,
          if_neg (by omega), isWideAt_write, if_pos ⟨rfl, rfl, by omega, hy⟩, hk]
      · by_cases hx2 : x' = x + 2
        · subst hx2
          rw [isMarkAt_write_of_ne _ _ (by omega), isMarkAt_write_of_ne _ _ (by omega), h.stop,
            isWideBefore_succ, isWideAt_write_self _ _ _ hmwide]
        · rw [isMarkAt_write_of_ne _ _ (by omega), isMarkAt_write_of_ne _ _ (by omega),
            isWideBefore_write_of_ne _ _ (by omega), isWideBefore_write_of_ne _ _ (by omega)]
          exact h.boundary x' y' (by omega)
  · rw [isMarkAt_write_of_ne _ _ (by omega), isMarkAt_write_of_ne _ _ (by omega),
      isWideBefore_write_of_ne _ _ (by omega), isWideBefore_write_of_ne _ _ (by omega)]
    exact h.boundary x' y' (by omega)

theorem Aligned.set {c : Canvas} (h : c.Aligned) (x y : Nat) {ch : Char} (t : Tone)
    (h0 : 0 < columns ch) (h2 : columns ch ≠ 2) : (c.set x y ch t).Aligned :=
  (h.gap_clearOverlap x y).write (Cell.not_isContinuation_of_columns h0) (by simp [Cell.isWide, h2])

theorem write_of_height_le {c : Canvas} {y : Nat} (hy : c.height ≤ y) (x : Nat) (k : Cell) :
    c.write x y k = c := by
  rw [write, if_neg (by omega)]

theorem clearOverlap_of_height_le {c : Canvas} {y : Nat} (hy : c.height ≤ y) (x : Nat) :
    c.clearOverlap x y = c := by
  rw [clearOverlap, cell?_eq_none (by omega)]

theorem Aligned.setWide {c : Canvas} (h : c.Aligned) {x : Nat} (y : Nat) {ch : Char} (t : Tone)
    (h2 : columns ch = 2) (hx : x + 1 < c.width) : (c.setWide x y ch t).Aligned := by
  by_cases hy : y < c.height
  · exact ((h.gap_clearOverlap x y).clearOverlap (by omega)).write_wide
      (by simp [Cell.isWide, h2]) rfl (by simpa using hx) (by simpa using hy)
  · have hy' : c.height ≤ y := by omega
    rw [Canvas.setWide]
    simp only [clearOverlap_of_height_le hy', write_of_height_le hy']
    exact h

theorem aligned_blank (w h : Nat) : (blank w h).Aligned := by
  have hmark : ∀ x y, (blank w h).isMarkAt x y = false := fun x y => by
    by_cases hin : x < w ∧ y < h
    · rw [isMarkAt, cell?_blank hin.1 hin.2]
      rfl
    · exact isMarkAt_off hin
  have hwide : ∀ x y, (blank w h).isWideAt x y = false := fun x y => by
    by_cases hin : x < w ∧ y < h
    · rw [isWideAt, cell?_blank hin.1 hin.2]
      exact isWide_space .normal
    · exact isWideAt_off hin
  intro x y
  rw [hmark, isWideBefore, hwide, Bool.and_false]

end StatusBoard.Canvas
