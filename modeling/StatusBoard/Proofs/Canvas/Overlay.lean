import StatusBoard.Proofs.Canvas.Inscription

/-!
Texts on cells of which some already hold characters.

The columns that a text takes show it and nothing else.  Outside of them only the cells next to its
two ends can change, where it has cut a character of two columns.  `Overlaid` says both of a canvas
at any moment of the writing, so one character more takes it from one moment to the next.
-/

namespace StatusBoard

open Text

/-- A blank in the tone of a cell. -/
def Cell.emptied (k : Cell) : Cell := ⟨' ', k.tone⟩

namespace Canvas

/-- What is left of a cell when `n` columns of row `y` are written over from column `x` on.  A half
of a character of two columns whose other half is among them becomes a blank in the tone of the
character; any other cell stays. -/
def remnant (c : Canvas) (x y n x' y' : Nat) : Option Cell :=
  if y' = y ∧ 0 < n ∧ x' + 1 = x ∧ c.isWideAt x' y = true then (c.cell? x' y).map Cell.emptied
  else if y' = y ∧ 0 < n ∧ x' = x + n ∧ c.isMarkAt x' y = true then
    (c.cell? (x' - 1) y).map Cell.emptied
  else c.cell? x' y'

variable {c d : Canvas} {x y n x' y' : Nat} {k : Cell} {ch : Char} {tone : Tone}

/-- A canvas is what its cells are. -/
theorem eq_of_cell? (hextent : d.extent = c.extent) (h : ∀ x y, d.cell? x y = c.cell? x y) :
    d = c := by
  obtain ⟨w, height, cells, hsize⟩ := c
  obtain ⟨w', height', cells', hsize'⟩ := d
  obtain ⟨hw, hheight⟩ : w' = w ∧ height' = height := Prod.mk.inj hextent
  subst hw hheight
  have hcells : cells' = cells := by
    apply Array.ext (hsize'.trans hsize.symm)
    intro i hi hi'
    have hin : i < w' * height' := hsize' ▸ hi
    have hpos : 0 < w' := Nat.pos_of_mul_pos_right (Nat.lt_of_le_of_lt (Nat.zero_le i) hin)
    have hx : i % w' < w' := Nat.mod_lt i hpos
    have hy : i / w' < height' := Nat.div_lt_of_lt_mul hin
    have hcell := h (i % w') (i / w')
    simp only [cell?, hx, hy, true_and, if_true, Nat.div_add_mod', hi, hi',
      Array.getElem?_eq_getElem, Option.some.injEq] at hcell
    exact hcell
  subst hcells
  rfl

theorem remnant_zero (c : Canvas) (x y x' y' : Nat) : c.remnant x y 0 x' y' = c.cell? x' y' := by
  rw [remnant, if_neg (by omega), if_neg (by omega)]

/-- Away from the two ends nothing changes. -/
theorem remnant_of_ne (hleft : x' + 1 ≠ x) (hright : x' ≠ x + n) :
    c.remnant x y n x' y' = c.cell? x' y' := by
  rw [remnant, if_neg (by omega), if_neg (by omega)]

/-- Writing over one column more moves the right end only. -/
theorem remnant_succ (hn : 0 < n) (hat : y' = y → x' ≠ x + n)
    (hnext : y' = y → x' = x + n + 1 → c.isMarkAt x' y = false) :
    c.remnant x y (n + 1) x' y' = c.remnant x y n x' y' := by
  have hright : ¬ (y' = y ∧ 0 < n + 1 ∧ x' = x + (n + 1) ∧ c.isMarkAt x' y = true) := by
    rintro ⟨hy, -, hx, hmark⟩
    rw [hnext hy hx] at hmark
    cases hmark
  have hbefore : ¬ (y' = y ∧ 0 < n ∧ x' = x + n ∧ c.isMarkAt x' y = true) :=
    fun h => hat h.1 h.2.2.1
  rw [remnant, remnant, if_neg hright, if_neg hbefore]
  simp only [hn, Nat.succ_pos]

/-- Outside of the columns that are written over everything is as it has to be. -/
def IsCleared (c d : Canvas) (x y n : Nat) : Prop :=
  ∀ x' y', (y' = y → x' < x ∨ x + n ≤ x') → d.cell? x' y' = c.remnant x y n x' y'

namespace IsCleared

theorem refl (c : Canvas) (x y : Nat) : IsCleared c c x y 0 :=
  fun x' y' _ => (c.remnant_zero x y x' y').symm

theorem write (h : IsCleared c d x y n) (hx : x ≤ x') (hx' : x' < x + n) (k : Cell) :
    IsCleared c (d.write x' y k) x y n := by
  intro x'' y'' hout
  rw [cell?_write, if_neg (by omega)]
  exact h x'' y'' hout

/-- The first column to be written over may cut a character on either side. -/
theorem first (hc : c.Aligned) (x y : Nat) : IsCleared c (c.clearOverlap x y) x y 1 := by
  have hbefore := hc x y
  intro x' y' hout
  rcases c.clearOverlap_cases x y with
    ⟨hm, rfl, -⟩ | ⟨hm, hx, k, hk, he⟩ | ⟨hm, hn, k, hk, he⟩ | ⟨hm, hn, he⟩
  · rw [hm] at hbefore
    cases hbefore
  · -- the left half of the character stands before the column, and no other one starts on it
    obtain ⟨x, rfl⟩ : ∃ a, x = a + 1 := ⟨x - 1, by omega⟩
    rw [hm, isWideBefore_succ] at hbefore
    have hnext : c.isMarkAt (x + 1 + 1) y = false := hc.spaced y (x + 1) hm
    rw [Nat.add_sub_cancel] at hk he
    have hin := lt_of_cell? hk
    rw [he, cell?_write, remnant]
    by_cases hleft : x' = x ∧ y' = y
    · obtain ⟨rfl, rfl⟩ := hleft
      rw [if_pos ⟨rfl, rfl, hin⟩, if_pos ⟨rfl, by omega, rfl, hbefore.symm⟩, hk]
      rfl
    · rw [if_neg fun h => hleft ⟨h.1, h.2.1⟩, if_neg (by omega), if_neg]
      rintro ⟨-, -, rfl, hmark⟩
      rw [hnext] at hmark
      cases hmark
  · rw [hm] at hbefore
    obtain ⟨m, hm', -⟩ := exists_of_isMarkAt hn
    have hin := lt_of_cell? hm'
    have hleft : ¬ (y' = y ∧ 0 < 1 ∧ x' + 1 = x ∧ c.isWideAt x' y = true) := by
      rintro ⟨-, -, rfl, hwide⟩
      rw [isWideBefore_succ, hwide] at hbefore
      cases hbefore
    rw [he, cell?_write, remnant, if_neg hleft]
    by_cases hright : x' = x + 1 ∧ y' = y
    · obtain ⟨rfl, rfl⟩ := hright
      rw [if_pos ⟨rfl, rfl, hin⟩, if_pos ⟨rfl, by omega, rfl, hn⟩, Nat.add_sub_cancel, hk]
      rfl
    · rw [if_neg fun h => hright ⟨h.1, h.2.1⟩, if_neg fun h => hright ⟨h.2.2.1, h.1⟩]
  · rw [hm] at hbefore
    rw [he, remnant, if_neg, if_neg]
    · rintro ⟨-, -, rfl, hmark⟩
      rw [hn] at hmark
      cases hmark
    · rintro ⟨-, -, rfl, hwide⟩
      rw [isWideBefore_succ, hwide] at hbefore
      cases hbefore

/-- A character that has lost its left half has no right half any more. -/
theorem isMarkAt_end (h : IsCleared c d x y n) (hn : 0 < n) : d.isMarkAt (x + n) y = false := by
  rw [isMarkAt, h (x + n) y fun _ => .inr (Nat.le_refl _), remnant, if_neg (by omega)]
  by_cases hmark : c.isMarkAt (x + n) y = true
  · rw [if_pos ⟨rfl, hn, rfl, hmark⟩]
    cases c.cell? (x + n - 1) y <;> rfl
  · rw [if_neg fun h => hmark h.2.2.2]
    exact Bool.eq_false_iff.mpr hmark

/-- Every other column to be written over can cut a character on its right only. -/
theorem next (hc : c.Aligned) (h : IsCleared c d x y n) (hn : 0 < n) :
    IsCleared c (d.clearOverlap (x + n) y) x y (n + 1) := by
  have hend := h.isMarkAt_end hn
  have hbeyond : d.cell? (x + n + 1) y = c.cell? (x + n + 1) y := by
    rw [h (x + n + 1) y fun _ => .inr (by omega), remnant_of_ne (by omega) (by omega)]
  have hmark : d.isMarkAt (x + n + 1) y = c.isMarkAt (x + n + 1) y := by
    rw [isMarkAt, hbeyond, isMarkAt]
  intro x' y' hout
  rcases d.clearOverlap_cases (x + n) y with
    ⟨hm, -⟩ | ⟨hm, -⟩ | ⟨-, hcut, k, hk, he⟩ | ⟨-, hcut, he⟩
  · rw [hend] at hm
    cases hm
  · rw [hend] at hm
    cases hm
  · -- the character that is cut starts on the column, which is as it was
    have hwide : c.isWideAt (x + n) y = true := by
      rw [← isWideBefore_succ, ← hc, ← hmark, hcut]
    have hkept : c.cell? (x + n) y = some k := by
      rw [← hk, h (x + n) y fun _ => .inr (Nat.le_refl _), remnant, if_neg (by omega), if_neg]
      rintro ⟨-, -, -, hm⟩
      rw [isWideAt_of_isMarkAt hm] at hwide
      cases hwide
    obtain ⟨m, hm, -⟩ := exists_of_isMarkAt hcut
    have hin := lt_of_cell? hm
    rw [he, cell?_write]
    by_cases hright : x' = x + n + 1 ∧ y' = y
    · obtain ⟨rfl, rfl⟩ := hright
      rw [if_pos ⟨rfl, rfl, hin⟩, remnant, if_neg (by omega),
        if_pos ⟨rfl, by omega, rfl, hmark ▸ hcut⟩, Nat.add_sub_cancel, hkept]
      rfl
    · rw [if_neg fun h => hright ⟨h.1, h.2.1⟩, remnant_succ hn (by omega)]
      · exact h x' y' (by omega)
      · exact fun hy hx => absurd ⟨hx, hy⟩ hright
  · rw [he, remnant_succ hn (by omega)]
    · exact h x' y' (by omega)
    · rintro rfl rfl
      rw [← hmark, hcut]

end IsCleared

/-! ## Characters -/

/-- The cells that a character takes. -/
def tiles (ch : Char) (t : Tone) : List Cell :=
  if columns ch = 2 then [⟨ch, t⟩, ⟨Cell.continuationMark, t⟩] else [⟨ch, t⟩]

theorem length_tiles (hch : columns ch = 1 ∨ columns ch = 2) (t : Tone) :
    (tiles ch t).length = columns ch := by
  rcases hch with hone | htwo
  · rw [tiles, if_neg (by omega), hone, List.length_singleton]
  · rw [tiles, if_pos htwo, htwo, List.length_cons, List.length_singleton]

theorem cell?_setChar (hch : columns ch = 1 ∨ columns ch = 2) (hx : x + columns ch ≤ c.width)
    (hy : y < c.height) {j : Nat} (hj : j < columns ch) :
    (c.setChar x y ch tone).cell? (x + j) y = (tiles ch tone)[j]? := by
  rw [setChar, tiles]
  rcases hch with hone | htwo
  · obtain rfl : j = 0 := by omega
    rw [if_neg (by omega), if_neg (by omega), set, cell?_write, width_clearOverlap,
      height_clearOverlap, if_pos ⟨rfl, rfl, by omega, hy⟩]
    rfl
  · rw [if_pos htwo, if_pos htwo, setWide, cell?_write]
    obtain rfl | rfl : j = 0 ∨ j = 1 := by omega
    · rw [if_neg (by omega), cell?_write, width_clearOverlap, width_clearOverlap,
        height_clearOverlap, height_clearOverlap, if_pos ⟨rfl, rfl, by omega, hy⟩]
      rfl
    · rw [width_write, height_write, width_clearOverlap, width_clearOverlap,
        height_clearOverlap, height_clearOverlap, if_pos ⟨rfl, rfl, by omega, hy⟩]
      rfl

/-- One canvas is the other with some cells laid over a row. -/
structure Overlaid (c d : Canvas) (x y : Nat) (ks : List Cell) : Prop where
  extent_eq : d.extent = c.extent
  inside : ∀ i, i < ks.length → d.cell? (x + i) y = ks[i]?
  outside : IsCleared c d x y ks.length

namespace Overlaid

variable {ks : List Cell}

theorem refl (c : Canvas) (x y : Nat) : Overlaid c c x y [] :=
  ⟨rfl, fun _ hi => absurd hi (Nat.not_lt_zero _), .refl c x y⟩

/-- Before a character is written, what it cuts is cleared. -/
theorem clearOverlap (hc : c.Aligned) (h : Overlaid c d x y ks) :
    IsCleared c (d.clearOverlap (x + ks.length) y) x y (ks.length + 1) := by
  cases ks with
  | nil =>
      obtain rfl : d = c := eq_of_cell? h.extent_eq fun x' y' =>
        (h.outside x' y' (by simp; omega)).trans (c.remnant_zero x y x' y')
      exact .first hc x y
  | cons k ks => exact h.outside.next hc (Nat.succ_pos _)

/-- One character more, on the columns after those that are taken. -/
theorem setChar (hc : c.Aligned) (h : Overlaid c d x y ks) (hch : columns ch = 1 ∨ columns ch = 2)
    (hfits : x + ks.length + columns ch ≤ c.width) (hy : y < c.height) (t : Tone) :
    Overlaid c (d.setChar (x + ks.length) y ch t) x y (ks ++ tiles ch t) := by
  obtain ⟨hw, hh⟩ : d.width = c.width ∧ d.height = c.height := Prod.mk.inj h.extent_eq
  refine ⟨?_, ?_, ?_⟩
  · rw [extent, width_setChar, height_setChar]
    exact h.extent_eq
  · intro i hi
    rw [List.length_append, length_tiles hch] at hi
    by_cases hbefore : i < ks.length
    · rw [cell?_setChar_left (by omega) fun _ => h.outside.isMarkAt_end (by omega),
        List.getElem?_append_left hbefore, h.inside i hbefore]
    · obtain ⟨j, rfl⟩ : ∃ j, i = ks.length + j := ⟨i - ks.length, by omega⟩
      rw [List.getElem?_append_right (by omega), Nat.add_sub_cancel_left, ← Nat.add_assoc,
        cell?_setChar hch (by omega) (by omega) (by omega)]
  · rw [List.length_append, length_tiles hch, Canvas.setChar]
    have hone := h.clearOverlap hc
    rcases hch with hcolumns | hcolumns
    · rw [if_neg (by omega), hcolumns, set]
      exact hone.write (by omega) (by omega) _
    · rw [if_pos hcolumns, hcolumns, setWide]
      have htwo := hone.next hc (Nat.succ_pos _)
      exact (htwo.write (by omega) (by omega) _).write (by omega) (by omega) _

/-- A text, as far as it has room and holds no character of three columns. -/
theorem putChars (hc : c.Aligned) (h : Overlaid c d x y ks) {limit : Nat} (hmax : limit < maxCoord)
    (hwidth : limit ≤ c.width) (hy : y < c.height) {text : List Char}
    (hfree : beyyal ∉ (fitting (x + ks.length) limit text).map Prod.snd) (t : Tone) :
    Overlaid c (d.putChars (x + ks.length) y t limit text).1 x y
      (ks ++ ((fitting (x + ks.length) limit text).map Prod.snd).flatMap (tiles · t)) := by
  induction text generalizing d ks with
  | nil =>
      rw [fitting, places, List.takeWhile_nil, List.map_nil, List.flatMap_nil, List.append_nil]
      exact h
  | cons ch rest ih =>
      rw [putChars_cons]
      by_cases hzero : columns ch = 0
      · rw [fitting_cons_of_zero hzero] at hfree ⊢
        rw [if_pos hzero]
        exact ih h hfree
      · rw [if_neg hzero]
        by_cases hfits : x + ks.length + columns ch ≤ limit
        · rw [fitting_cons_of_le hzero hfits, List.map_cons] at hfree ⊢
          rw [List.mem_cons, not_or] at hfree
          have hcolumns : columns ch = 1 ∨ columns ch = 2 := by
            have hthree : columns ch ≠ 3 := fun h3 => hfree.1 (columns_eq_three_iff.mp h3).symm
            have := columns_le ch
            omega
          have hroom : ¬ limit < addCoord (x + ks.length) (columns ch) := by
            rw [addCoord_eq (by omega)]
            omega
          have hnext : x + (ks ++ tiles ch t).length = x + ks.length + columns ch := by
            rw [List.length_append, length_tiles hcolumns, Nat.add_assoc]
          have hrest := ih (h.setChar hc hcolumns (by omega) hy t) (hnext ▸ hfree.2)
          rw [hnext] at hrest
          rw [if_neg hroom, List.flatMap_cons, ← List.append_assoc]
          exact hrest
        · have hfull : limit < addCoord (x + ks.length) (columns ch) := by
            unfold addCoord
            omega
          rw [fitting_cons_of_lt hzero (by omega), if_pos hfull]
          simpa using h

end Overlaid

/-! ## Texts -/

/-- The characters of a text that take a column. -/
def printing (text : List Char) : List Char := text.filter (0 < columns ·)

/-- The longest beginning of a text that takes no more columns than there are. -/
structure IsLongestBeginning (room : Nat) (text part : List Char) : Prop where
  beginning : part <+: text
  room_le : totalColumns part ≤ room
  longest : ∀ other, other <+: text → totalColumns other ≤ room → other.length ≤ part.length

theorem printing_cons_of_zero (h : columns ch = 0) (text : List Char) :
    printing (ch :: text) = printing text :=
  List.filter_cons_of_neg (by simp [h])

theorem printing_cons_of_ne (h : columns ch ≠ 0) (text : List Char) :
    printing (ch :: text) = ch :: printing text :=
  List.filter_cons_of_pos (by simp; omega)

theorem isLongestBeginning_fitting (col limit : Nat) (text : List Char) :
    IsLongestBeginning (limit - col) (printing text) ((fitting col limit text).map Prod.snd) := by
  induction text generalizing col with
  | nil =>
      refine ⟨List.nil_prefix, Nat.zero_le _, fun other hother _ => ?_⟩
      rw [List.prefix_nil.mp hother]
      exact Nat.zero_le _
  | cons ch rest ih =>
      by_cases hzero : columns ch = 0
      · rw [printing_cons_of_zero hzero, fitting_cons_of_zero hzero]
        exact ih col
      · rw [printing_cons_of_ne hzero]
        by_cases hfits : col + columns ch ≤ limit
        · obtain ⟨hbeginning, hroom, hlongest⟩ := ih (col + columns ch)
          rw [fitting_cons_of_le hzero hfits, List.map_cons]
          refine ⟨(List.prefix_cons_inj ch).mpr hbeginning, ?_, ?_⟩
          · rw [totalColumns_cons]
            change columns ch + _ ≤ _
            omega
          · intro other hother hcolumns
            cases other with
            | nil => exact Nat.zero_le _
            | cons first others =>
                obtain ⟨rfl, hothers⟩ := List.cons_prefix_cons.mp hother
                rw [totalColumns_cons] at hcolumns
                exact Nat.succ_le_succ (hlongest others hothers (by omega))
        · rw [fitting_cons_of_lt hzero (by omega)]
          refine ⟨List.nil_prefix, Nat.zero_le _, fun other hother hcolumns => ?_⟩
          cases other with
          | nil => exact Nat.le_refl _
          | cons first others =>
              obtain ⟨rfl, -⟩ := List.cons_prefix_cons.mp hother
              rw [totalColumns_cons] at hcolumns
              omega

/-- A character of three columns takes one cell only. -/
theorem length_flatMap_tiles {part : List Char} (hpos : ∀ ch ∈ part, 0 < columns ch) (t : Tone) :
    (part.flatMap (tiles · t)).length + 2 * part.count beyyal = totalColumns part := by
  induction part with
  | nil => rfl
  | cons ch part ih =>
      have hrest := ih fun ch hch => hpos ch (List.mem_cons_of_mem _ hch)
      have hch := hpos ch List.mem_cons_self
      have hle := columns_le ch
      rw [List.flatMap_cons, List.length_append, totalColumns_cons, List.count_cons]
      by_cases hthree : ch = beyyal
      · have hcolumns := columns_eq_three_iff.mpr hthree
        rw [tiles, if_neg (by omega), List.length_singleton, if_pos (by simpa using hthree)]
        omega
      · have hcolumns : columns ch ≠ 3 := fun h => hthree (columns_eq_three_iff.mp h)
        rw [length_tiles (by omega), if_neg (by simpa using hthree)]
        omega

/-- Row `y` shows some cells, and nothing else, on `n` columns from `x` on; elsewhere only what
has been cut has changed. -/
structure Lays (c d : Canvas) (x y n : Nat) (ks : List Cell) : Prop where
  extent_eq : d.extent = c.extent
  row : ((d.row y).drop x).take n = ks
  outside : IsCleared c d x y n

theorem Overlaid.lays {ks : List Cell} (h : Overlaid c d x y ks) (hy : y < c.height) :
    Lays c d x y ks.length ks := by
  obtain ⟨-, hh⟩ : d.width = c.width ∧ d.height = c.height := Prod.mk.inj h.extent_eq
  refine ⟨h.extent_eq, List.ext_getElem? fun i => ?_, h.outside⟩
  rw [List.getElem?_take, List.getElem?_drop, getElem?_row (hh ▸ hy)]
  split
  · rename_i hi
    exact h.inside i hi
  · rename_i hi
    rw [List.getElem?_eq_none (Nat.not_lt.mp hi)]

/-- Of a text the longest beginning is written that has room, counting the characters that take a
column only, and its columns are returned.  On them it stands and nothing else, and elsewhere only
what it has cut has changed, exactly if it holds no character of three columns. -/
theorem putText_lays_longest_iff (hc : c.WellFormed) (hmax : c.width < maxCoord)
    (hy : y < c.height) (x : Nat) (text : String) (t : Tone) (limit : Nat) :
    ∃ part, IsLongestBeginning (min limit c.width - x) (printing text.toList) part ∧
      (c.putText x y text t limit).2 = totalColumns part ∧
      (Lays c (c.putText x y text t limit).1 x y (totalColumns part) (part.flatMap (tiles · t)) ↔
        beyyal ∉ part) := by
  have hlimit : min limit c.width < maxCoord := by omega
  have hlongest := isLongestBeginning_fitting x (min limit c.width) text.toList
  refine ⟨(fitting x (min limit c.width) text.toList).map Prod.snd, hlongest, ?_, ?_⟩
  · rw [putText_eq, putChars_col (.inl hlimit), Nat.add_sub_cancel_left]
  · generalize hpart : (fitting x (min limit c.width) text.toList).map Prod.snd = part at hlongest ⊢
    have hpos : ∀ ch ∈ part, 0 < columns ch := fun ch hch =>
      of_decide_eq_true (List.mem_filter.mp (hlongest.beginning.subset hch)).2
    have hlength := length_flatMap_tiles hpos t
    constructor
    · -- on the canvas the columns are all there, so that each cell counts for one
      intro hlays
      obtain ⟨hw, hh⟩ : (c.putText x y text t limit).1.width = c.width ∧
          (c.putText x y text t limit).1.height = c.height := Prod.mk.inj hlays.extent_eq
      have hrow := congrArg List.length hlays.row
      have hroom := hlongest.room_le
      rw [List.length_take, List.length_drop, length_row (hh ▸ hy), hw] at hrow
      exact List.count_eq_zero.mp (by omega)
    · intro hfree
      have hfree' : beyyal ∉ (fitting x (min limit c.width) text.toList).map Prod.snd :=
        hpart ▸ hfree
      have hlaid := (Overlaid.refl c x y).putChars hc.aligned hlimit (Nat.min_le_right _ _) hy
        hfree' t
      rw [List.length_nil, Nat.add_zero, List.nil_append, hpart] at hlaid
      rw [← hlength, List.count_eq_zero_of_not_mem hfree, Nat.mul_zero, Nat.add_zero]
      exact hlaid.lays hy

/-- A row of characters of two columns. -/
def paved : Canvas := ((blank 8 1).putText 0 0 "日日日日" .label 8).1

theorem wellFormed_paved : paved.WellFormed := by
  have hs : ∀ s ∈ [Stroke.text 0 0 "日日日日" .label 8], s.IsRegular := by
    simp [Stroke.IsRegular]
  have hpicture := Stroke.wellFormed_picture (show 8 < maxCoord by decide) 1 hs (by decide)
  exact hpicture

/-- A text that cuts characters at both ends, passes over a mark of no width and is cut itself. -/
theorem putText_lays_across_paved :
    paved.WellFormed ∧ paved.width < maxCoord ∧ 0 < paved.height ∧
      (paved.putText 1 0 "a\u0301本b本" .normal 6).2 = 4 ∧
      (∃ part, IsLongestBeginning 5 (printing "a\u0301本b本".toList) part ∧
        Lays paved (paved.putText 1 0 "a\u0301本b本" .normal 6).1 1 0 (totalColumns part)
          (part.flatMap (tiles · .normal))) ∧
      ((paved.putText 1 0 "a\u0301本b本" .normal 6).1.row 0).take 6 =
        [⟨' ', .label⟩, ⟨'a', .normal⟩, ⟨'本', .normal⟩, ⟨Cell.continuationMark, .normal⟩,
          ⟨'b', .normal⟩, ⟨' ', .label⟩] := by
  have hwidth : paved.width = 8 := by decide +kernel
  have hmax : paved.width < maxCoord := by rw [hwidth]; decide
  have hheight : 0 < paved.height := by decide +kernel
  refine ⟨wellFormed_paved, hmax, hheight, by decide +kernel, ?_, by decide +kernel⟩
  obtain ⟨part, hlongest, -, hlays⟩ := putText_lays_longest_iff wellFormed_paved hmax hheight 1
    "a\u0301本b本" .normal 6
  rw [hwidth] at hlongest
  have hfree : beyyal ∉ printing "a\u0301本b本".toList := by decide +kernel
  exact ⟨part, hlongest, hlays.mpr fun hmem => hfree (hlongest.beginning.subset hmem)⟩

/-- A row of letters. -/
def lettered : Canvas := ((blank 4 1).putText 0 0 "abcd" .normal 4).1

theorem wellFormed_lettered : lettered.WellFormed := by
  have hs : ∀ s ∈ [Stroke.text 0 0 "abcd" .normal 4], s.IsRegular := by
    simp [Stroke.IsRegular]
  have hpicture := Stroke.wellFormed_picture (show 4 < maxCoord by decide) 1 hs (by decide)
  exact hpicture

/-- Under a character of three columns the older letters stay where its other two columns are. -/
theorem putText_shows_through_beyyal :
    lettered.WellFormed ∧ lettered.extent = (4, 1) ∧
      (lettered.putText 0 0 "\u17d8" .title 4).2 = 3 ∧
      ¬ Lays lettered (lettered.putText 0 0 "\u17d8" .title 4).1 0 0 3 (tiles beyyal .title) ∧
      ((lettered.putText 0 0 "\u17d8" .title 4).1.row 0).take 3 =
        [⟨beyyal, .title⟩, ⟨'b', .normal⟩, ⟨'c', .normal⟩] := by
  have hrow : ((lettered.putText 0 0 "\u17d8" .title 4).1.row 0).take 3 =
      [⟨beyyal, .title⟩, ⟨'b', .normal⟩, ⟨'c', .normal⟩] := by
    decide +kernel
  refine ⟨wellFormed_lettered, by decide +kernel, by decide +kernel, fun hlays => ?_, hrow⟩
  have hshown := hlays.row
  rw [List.drop_zero, hrow] at hshown
  exact absurd (congrArg List.length hshown) (by decide +kernel)

end Canvas

end StatusBoard
