import StatusBoard.Canvas.Draw
import Mathlib.Algebra.GroupWithZero.Nat

/-!
Well-formed canvases: each character of two columns stands whole on two cells of its row.

`WellFormed` is the property as a reader of the screen sees it, `Aligned` the part of it that
speaks of one boundary between two cells at a time, and `IsWhole` says of a list of cells that it
can be read off character by character.
-/

namespace StatusBoard

namespace Text

/-- Columns that a character takes when it is printed; a character without a width takes none. -/
def columns (ch : Char) : Nat := (charWidth ch).getD 0

theorem columns_space : columns ' ' = 1 := by decide

def beyyal : Char := '\u17d8'

theorem columns_eq_three_iff {ch : Char} : columns ch = 3 ↔ ch = beyyal := by
  constructor
  · intro h
    unfold columns charWidth at h
    repeat' split at h
    all_goals try simp at h
    rename_i hch
    apply Char.ext
    apply UInt32.toNat_inj.mp
    exact hch
  · rintro rfl
    decide +kernel

theorem columns_le (ch : Char) : columns ch ≤ 3 := by
  unfold columns charWidth
  repeat' split
  all_goals simp

end Text

open Text

namespace Cell

/-- Whether the character of a cell takes two columns. -/
def isWide (k : Cell) : Bool := columns k.ch = 2

theorem columns_of_isContinuation {k : Cell} (h : k.isContinuation = true) : columns k.ch = 0 := by
  rw [isContinuation, decide_eq_true_eq] at h
  rw [h]
  rfl

theorem not_isContinuation_of_columns {k : Cell} (h : 0 < columns k.ch) :
    k.isContinuation = false := by
  cases hk : k.isContinuation with
  | false => rfl
  | true =>
      rw [columns_of_isContinuation hk] at h
      exact absurd h (by omega)

/-- Columns that cells take when their characters are printed one after the other. -/
def printedColumns (cells : List Cell) : Nat :=
  ((cells.filter fun k => !k.isContinuation).map fun k => columns k.ch).sum

/-- Cells that hold whole characters. -/
inductive IsWhole : List Cell → Prop
  | nil : IsWhole []
  | narrow {k : Cell} {rest : List Cell} :
      columns k.ch = 1 → IsWhole rest → IsWhole (k :: rest)
  | wide {k m : Cell} {rest : List Cell} :
      columns k.ch = 2 → m.isContinuation = true → IsWhole rest → IsWhole (k :: m :: rest)

theorem IsWhole.printedColumns_eq {cells : List Cell} (h : IsWhole cells) :
    printedColumns cells = cells.length := by
  induction h with
  | nil => rfl
  | @narrow k rest hk _ ih =>
      have hmark : k.isContinuation = false := not_isContinuation_of_columns (by omega)
      unfold printedColumns at ih ⊢
      simp [hmark, hk, ih, Nat.add_comm]
  | @wide k m rest hk hm _ ih =>
      have hmark : k.isContinuation = false := not_isContinuation_of_columns (by omega)
      unfold printedColumns at ih ⊢
      simp [hmark, hm, hk, ih]
      omega

end Cell

namespace Canvas

/-- Each character of two columns stands on a cell and the mark right of it, marks stand nowhere
else, and every other character has one column. -/
structure WellFormed (c : Canvas) : Prop where
  mark_iff : ∀ x y k, c.cell? x y = some k →
    (k.isContinuation = true ↔ ∃ l, 0 < x ∧ c.cell? (x - 1) y = some l ∧ l.isWide = true)
  wide_lt : ∀ x y k, c.cell? x y = some k → k.isWide = true → x + 1 < c.width
  narrow : ∀ x y k, c.cell? x y = some k → k.isContinuation = false → k.isWide = false →
    columns k.ch = 1

/-- Whether a mark stands on a cell; none stands off the canvas. -/
def isMarkAt (c : Canvas) (x y : Nat) : Bool := (c.cell? x y).any Cell.isContinuation

/-- Whether a character of two columns stands on a cell. -/
def isWideAt (c : Canvas) (x y : Nat) : Bool := (c.cell? x y).any Cell.isWide

/-- Whether a character of two columns stands left of a cell. -/
def isWideBefore (c : Canvas) (x y : Nat) : Bool := 0 < x && c.isWideAt (x - 1) y

/-- At each boundary of two cells, a mark is right of it exactly if a character of two columns is
left of it.  The edges of the canvas are boundaries too. -/
def Aligned (c : Canvas) : Prop := ∀ x y, c.isMarkAt x y = c.isWideBefore x y

/-- Every cell that is no mark satisfies a property. -/
def AllCells (p : Char → Prop) (c : Canvas) : Prop :=
  ∀ x y k, c.cell? x y = some k → k.isContinuation = false → p k.ch

theorem cell?_eq_none {c : Canvas} {x y : Nat} (h : ¬ (x < c.width ∧ y < c.height)) :
    c.cell? x y = none := by
  unfold cell?
  rw [if_neg h]

theorem lt_of_cell? {c : Canvas} {x y : Nat} {k : Cell} (h : c.cell? x y = some k) :
    x < c.width ∧ y < c.height := isSome_cell?.mp (by simp [h])

theorem length_row {c : Canvas} {y : Nat} (hy : y < c.height) : (c.row y).length = c.width := by
  have hsize : y * c.width + c.width ≤ c.cells.size := by
    rw [c.size_cells, Nat.mul_comm c.width, ← Nat.succ_mul]
    exact Nat.mul_le_mul_right _ hy
  rw [row, if_pos hy]
  simp only [Array.length_toList, Array.size_extract]
  omega

theorem getElem?_row {c : Canvas} {x y : Nat} (hy : y < c.height) :
    (c.row y)[x]? = c.cell? x y := by
  by_cases hx : x < c.width
  · have hi := index_lt hx hy
    rw [row, if_pos hy, cell?, if_pos ⟨hx, hy⟩]
    simp only [Array.getElem?_toList, Array.getElem?_extract]
    rw [if_pos (by omega)]
  · rw [cell?_eq_none (fun h => hx h.1), List.getElem?_eq_none]
    rw [length_row hy]
    omega

theorem WellFormed.aligned {c : Canvas} (h : c.WellFormed) : c.Aligned := by
  intro x y
  cases hk : c.cell? x y with
  | some k =>
      rw [Bool.eq_iff_iff]
      simp only [isMarkAt, isWideBefore, isWideAt, hk, Option.any_some, h.mark_iff x y k hk,
        Bool.and_eq_true, decide_eq_true_eq, Option.any_eq_true]
      constructor
      · rintro ⟨l, hx, hl, hw⟩
        exact ⟨hx, l, hl, hw⟩
      · rintro ⟨hx, l, hl, hw⟩
        exact ⟨l, hx, hl, hw⟩
  | none =>
      cases hb : c.isWideBefore x y with
      | false => simp [isMarkAt, hk]
      | true =>
          simp only [isWideBefore, isWideAt, Bool.and_eq_true, decide_eq_true_eq,
            Option.any_eq_true] at hb
          obtain ⟨hx, l, hl, hw⟩ := hb
          have hlt := h.wide_lt _ y l hl hw
          have hy := (lt_of_cell? hl).2
          have := isSome_cell?.mpr ⟨show x < c.width by omega, hy⟩
          simp [hk] at this

theorem Aligned.wellFormed {c : Canvas} (h : c.Aligned)
    (hc : c.AllCells fun ch => columns ch = 1 ∨ columns ch = 2) : c.WellFormed := by
  constructor
  · intro x y k hk
    have hb := h x y
    simp only [isMarkAt, hk, Option.any_some] at hb
    rw [hb]
    simp only [isWideBefore, isWideAt, Bool.and_eq_true, decide_eq_true_eq, Option.any_eq_true]
    constructor
    · rintro ⟨hx, l, hl, hw⟩
      exact ⟨l, hx, hl, hw⟩
    · rintro ⟨l, hx, hl, hw⟩
      exact ⟨hx, l, hl, hw⟩
  · intro x y k hk hw
    have hb := h (x + 1) y
    simp only [isWideBefore, isWideAt, Nat.add_sub_cancel, hk, Option.any_some, hw] at hb
    simp only [Nat.zero_lt_succ, decide_true, Bool.and_true, isMarkAt, Option.any_eq_true] at hb
    obtain ⟨l, hl, -⟩ := hb
    exact (lt_of_cell? hl).1
  · intro x y k hk hmark hw
    rcases hc x y k hk hmark with h1 | h2
    · exact h1
    · simp [Cell.isWide, h2] at hw

/-- From a cell on that is no mark, a row of a well-formed canvas is read off in whole characters.
-/
theorem WellFormed.isWhole_drop {c : Canvas} (h : c.WellFormed) {y : Nat} (hy : y < c.height)
    (x : Nat) (hx : c.isMarkAt x y = false) : Cell.IsWhole ((c.row y).drop x) := by
  by_cases hlt : x < (c.row y).length
  · have hk : c.cell? x y = some (c.row y)[x] := by
      rw [← getElem?_row hy, List.getElem?_eq_getElem hlt]
    have hmark : (c.row y)[x].isContinuation = false := by simpa [isMarkAt, hk] using hx
    have hnext : c.isMarkAt (x + 1) y = (c.row y)[x].isWide := by
      rw [h.aligned, isWideBefore, isWideAt, Nat.add_sub_cancel, hk]
      simp
    rw [List.drop_eq_getElem_cons hlt]
    cases hw : (c.row y)[x].isWide with
    | false =>
        exact .narrow (h.narrow x y _ hk hmark hw) (h.isWhole_drop hy (x + 1) (by rw [hnext, hw]))
    | true =>
        have hlt' : x + 1 < (c.row y).length := by
          rw [length_row hy]
          exact h.wide_lt x y _ hk hw
        have hk' : c.cell? (x + 1) y = some (c.row y)[x + 1] := by
          rw [← getElem?_row hy, List.getElem?_eq_getElem hlt']
        have hm : (c.row y)[x + 1].isContinuation = true := by
          rw [hw] at hnext
          simpa [isMarkAt, hk'] using hnext
        have hnext' : c.isMarkAt (x + 2) y = false := by
          rw [h.aligned, isWideBefore, isWideAt, show x + 2 - 1 = x + 1 from rfl, hk']
          simp [Cell.isWide, Cell.columns_of_isContinuation hm]
        rw [List.drop_eq_getElem_cons hlt']
        exact .wide (by simpa [Cell.isWide] using hw) hm (h.isWhole_drop hy (x + 2) hnext')
  · rw [List.drop_eq_nil_of_le (by omega)]
    exact .nil
termination_by (c.row y).length - x

theorem WellFormed.isWhole_row {c : Canvas} (h : c.WellFormed) {y : Nat} (hy : y < c.height) :
    Cell.IsWhole (c.row y) := by
  have hstart : c.isMarkAt 0 y = false := by
    rw [h.aligned]
    rfl
  simpa using h.isWhole_drop hy 0 hstart

/-- What stands in a row of a well-formed canvas and is no mark takes a column. -/
theorem exists_cell?_of_mem_row {c : Canvas} {y : Nat} {k : Cell} (hk : k ∈ c.row y) :
    ∃ x, c.cell? x y = some k := by
  have hy : y < c.height := by
    rw [row] at hk
    split at hk
    · assumption
    · cases hk
  obtain ⟨x, hx⟩ := List.mem_iff_getElem?.mp hk
  exact ⟨x, (getElem?_row hy).symm.trans hx⟩

theorem WellFormed.columns_pos {c : Canvas} (h : c.WellFormed) {y : Nat} {k : Cell}
    (hk : k ∈ c.row y) (hmark : k.isContinuation = false) : 0 < columns k.ch := by
  obtain ⟨x, hx⟩ := exists_cell?_of_mem_row hk
  cases hw : k.isWide with
  | false => rw [h.narrow x y k hx hmark hw]; decide
  | true => rw [show columns k.ch = 2 by simpa [Cell.isWide] using hw]; decide

/-- A row of a well-formed canvas prints as many columns as the canvas has. -/
theorem WellFormed.printedColumns_row {c : Canvas} (h : c.WellFormed) {y : Nat}
    (hy : y < c.height) : Cell.printedColumns (c.row y) = c.width := by
  rw [(h.isWhole_row hy).printedColumns_eq, length_row hy]

end Canvas

end StatusBoard
