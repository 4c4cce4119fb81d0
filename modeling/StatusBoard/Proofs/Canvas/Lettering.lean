import StatusBoard.Proofs.Canvas.Drawing
import StatusBoard.Proofs.Text.Measuring

/-!
Painting a text on the columns it was measured to take.

A text is painted character by character, and each takes its own columns.  The text is whole on
the columns of its measure exactly if these add up to the measure.
-/

namespace StatusBoard.Canvas

open Text

variable {c d : Canvas} {x y x' : Nat} {ch : Char} {tone : Tone}

/-- The columns at which the characters of a text stand if it starts at the given one; those
without a column do not stand anywhere. -/
def places (col : Nat) : List Char → List (Nat × Char)
  | [] => []
  | ch :: rest =>
      if columns ch = 0 then places col rest
      else (col, ch) :: places (col + columns ch) rest

/-- The characters of a text from its start up to the first that reaches past a column, each with
the column it starts at. -/
def fitting (col limit : Nat) (text : List Char) : List (Nat × Char) :=
  (places col text).takeWhile fun p => p.1 + columns p.2 ≤ limit

/-- Whether a character is painted at a position, both halves of it if it has two columns. -/
def Bears (c : Canvas) (x y : Nat) (ch : Char) (tone : Tone) : Prop :=
  c.cell? x y = some ⟨ch, tone⟩ ∧
    (columns ch = 2 → c.cell? (x + 1) y = some ⟨Cell.continuationMark, tone⟩)

instance (c : Canvas) (x y : Nat) (ch : Char) (tone : Tone) : Decidable (c.Bears x y ch tone) :=
  inferInstanceAs (Decidable (_ ∧ (_ → _)))

/-- No two marks stand side by side in a row. -/
def Spaced (c : Canvas) (y : Nat) : Prop :=
  ∀ x, c.isMarkAt x y = true → c.isMarkAt (x + 1) y = false

/-- What is at a position left of a column, and is not cut if a text is written from this column
on. -/
structure Kept (c : Canvas) (x y col : Nat) (k : Option Cell) : Prop where
  cell : c.cell? x y = k
  left : x < col
  uncut : x + 1 = col → c.isMarkAt col y = false

/-- Two canvases have the same cells in a row from a column on. -/
def SameFrom (c d : Canvas) (x y : Nat) : Prop := ∀ x', x ≤ x' → c.cell? x' y = d.cell? x' y

theorem Aligned.spaced (h : c.Aligned) (y : Nat) : c.Spaced y := by
  intro x hmark
  rw [h, isWideBefore_succ]
  exact isWideAt_of_isMarkAt hmark

/-! ## Clearing what a character cuts -/

theorem Spaced.of_imp (h : c.Spaced y)
    (hmarks : ∀ x, d.isMarkAt x y = true → c.isMarkAt x y = true) : d.Spaced y := by
  intro x hmark
  apply Bool.eq_false_iff.mpr
  intro hnext
  have hold := h x (hmarks x hmark)
  rw [hmarks (x + 1) hnext] at hold
  cases hold

theorem isMarkAt_of_isMarkAt_write {k : Cell} (hk : k.isContinuation = false)
    (h : (c.write x y k).isMarkAt x' y = true) : c.isMarkAt x' y = true := by
  rw [isMarkAt_write] at h
  split at h
  · rw [hk] at h
    cases h
  · exact h

theorem Spaced.write (h : c.Spaced y) (x : Nat) {k : Cell} (hk : k.isContinuation = false) :
    (c.write x y k).Spaced y :=
  h.of_imp fun _ => isMarkAt_of_isMarkAt_write hk

/-- A mark may stand between two cells that have none. -/
theorem Spaced.write_between (h : c.Spaced y) (hleft : c.isMarkAt x y = false)
    (hright : c.isMarkAt (x + 2) y = false) (m : Cell) : (c.write (x + 1) y m).Spaced y := by
  intro x' hmark
  by_cases hbefore : x' = x
  · rw [hbefore, isMarkAt_write_of_ne _ _ (by omega), hleft] at hmark
    cases hmark
  · rw [isMarkAt_write_of_ne _ _ (by omega)]
    by_cases hat : x' = x + 1
    · rw [hat]
      exact hright
    · rw [isMarkAt_write_of_ne _ _ (by omega)] at hmark
      exact h x' hmark

theorem Spaced.clearOverlap (h : c.Spaced y) (x : Nat) :
    (c.clearOverlap x y).Spaced y ∧ (c.clearOverlap x y).isMarkAt (x + 1) y = false := by
  rcases c.clearOverlap_cases x y with
    ⟨hm, -, he⟩ | ⟨hm, hx, k, -, he⟩ | ⟨-, -, k, -, he⟩ | ⟨-, hn, he⟩
  · rw [he]
    exact ⟨h, h x hm⟩
  · rw [he]
    refine ⟨h.write _ (isContinuation_space k.tone), ?_⟩
    rw [isMarkAt_write_of_ne _ _ (by omega)]
    exact h x hm
  · rw [he]
    exact ⟨h.write _ (isContinuation_space k.tone),
      isMarkAt_write_self _ _ _ (isContinuation_space k.tone)⟩
  · rw [he]
    exact ⟨h, hn⟩

/-- Clearing blanks the cell before only if that one is cut. -/
theorem cell?_clearOverlap_left (hx : x' < x) (hcut : x' + 1 = x → c.isMarkAt x y = false) :
    (c.clearOverlap x y).cell? x' y = c.cell? x' y := by
  rcases c.clearOverlap_cases x y with
    ⟨-, -, he⟩ | ⟨hm, -, k, -, he⟩ | ⟨-, -, k, -, he⟩ | ⟨-, -, he⟩
  · rw [he]
  · have hne : ¬ x' + 1 = x := by
      intro hbefore
      rw [hcut hbefore] at hm
      cases hm
    rw [he, cell?_write, if_neg (by omega)]
  · rw [he, cell?_write, if_neg (by omega)]
  · rw [he]

/-- What clearing does to the cells from the position on can be told from these. -/
theorem cell?_clearOverlap_right (hx : x ≤ x') :
    (c.clearOverlap x y).cell? x' y =
      if x' = x + 1 ∧ c.isMarkAt x y = false ∧ c.isMarkAt (x + 1) y = true then
        (c.cell? x y).map fun k => ⟨' ', k.tone⟩
      else c.cell? x' y := by
  rcases c.clearOverlap_cases x y with
    ⟨hm, -, he⟩ | ⟨hm, hpos, k, -, he⟩ | ⟨hm, hn, k, hk, he⟩ | ⟨-, hn, he⟩
  · rw [he, if_neg (by simp [hm])]
  · rw [he, cell?_write, if_neg (by omega), if_neg (by simp [hm])]
  · obtain ⟨m, hcell, -⟩ := exists_of_isMarkAt hn
    rw [he, cell?_write, hk]
    by_cases hnext : x' = x + 1
    · rw [if_pos ⟨hnext, rfl, lt_of_cell? hcell⟩, if_pos ⟨hnext, hm, hn⟩]
      rfl
    · rw [if_neg (fun h => hnext h.1), if_neg (fun h => hnext h.1)]
  · rw [he, if_neg (by simp [hn])]

namespace SameFrom

theorem mono (h : SameFrom c d x y) (hx : x ≤ x') : SameFrom c d x' y :=
  fun _ hle => h _ (Nat.le_trans hx hle)

theorem isMarkAt_eq (h : SameFrom c d x y) (hx : x ≤ x') : c.isMarkAt x' y = d.isMarkAt x' y := by
  rw [isMarkAt, isMarkAt, h x' hx]

theorem clearOverlap (h : SameFrom c d x y) :
    SameFrom (c.clearOverlap x y) (d.clearOverlap x y) x y := by
  intro x' hx
  rw [cell?_clearOverlap_right hx, cell?_clearOverlap_right hx, h.isMarkAt_eq (Nat.le_refl x),
    h.isMarkAt_eq (Nat.le_succ x), h x (Nat.le_refl x), h x' hx]

/-- What is written before the column does not show. -/
theorem write (h : SameFrom c d x y) (hx : x' < x) (k l : Cell) :
    SameFrom (c.write x' y k) (d.write x' y l) x y := by
  intro x'' hle
  rw [cell?_write, cell?_write, if_neg (by omega), if_neg (by omega)]
  exact h x'' hle

end SameFrom

/-! ## One character -/

/-- No character puts two marks side by side, whatever it cuts. -/
theorem Spaced.setChar (h : c.Spaced y) (hpos : 0 < columns ch) (x : Nat) (tone : Tone) :
    (c.setChar x y ch tone).Spaced y := by
  have hmark : (Cell.mk ch tone).isContinuation = false := Cell.not_isContinuation_of_columns hpos
  obtain ⟨hcleared, -⟩ := h.clearOverlap x
  rw [Canvas.setChar]
  split
  · obtain ⟨hboth, hafter⟩ := hcleared.clearOverlap (x + 1)
    rw [setWide]
    apply (hboth.write x hmark).write_between
    · exact isMarkAt_write_self _ _ _ hmark
    · rw [isMarkAt_write_of_ne _ _ (by omega)]
      exact hafter
  · exact hcleared.write x hmark

/-- A character covers its columns, and no mark is left right of them if it has one or two. -/
theorem Spaced.bears_setChar (h : c.Spaced y) (hx : x + columns ch ≤ c.width)
    (hpos : 0 < columns ch) (hy : y < c.height) (tone : Tone) :
    (c.setChar x y ch tone).Bears x y ch tone ∧
      (columns ch ≤ 2 → (c.setChar x y ch tone).isMarkAt (x + columns ch) y = false) := by
  obtain ⟨hcleared, hnext⟩ := h.clearOverlap x
  rw [Canvas.setChar]
  split
  · rename_i htwo
    obtain ⟨-, hafter⟩ := hcleared.clearOverlap (x + 1)
    rw [setWide]
    refine ⟨⟨?_, ?_⟩, ?_⟩
    · rw [cell?_write, if_neg (by omega), cell?_write, if_pos (by simp; omega)]
    · intro _
      rw [cell?_write, if_pos (by simp; omega)]
    · intro _
      rw [htwo, isMarkAt_write_of_ne _ _ (by omega), isMarkAt_write_of_ne _ _ (by omega)]
      exact hafter
  · rename_i hone
    rw [set]
    refine ⟨⟨?_, fun htwo => absurd htwo hone⟩, ?_⟩
    · rw [cell?_write, width_clearOverlap, height_clearOverlap, if_pos ⟨rfl, rfl, by omega, hy⟩]
    · intro hle
      have hcolumns : columns ch = 1 := by omega
      rw [hcolumns, isMarkAt_write_of_ne _ _ (by omega)]
      exact hnext

/-- A character that cuts nothing leaves the cells left of it as they are. -/
theorem cell?_setChar_left (hx : x' < x) (hcut : x' + 1 = x → c.isMarkAt x y = false) :
    (c.setChar x y ch tone).cell? x' y = c.cell? x' y := by
  rw [setChar]
  split
  · rw [setWide, cell?_write, if_neg (by omega), cell?_write, if_neg (by omega),
      cell?_clearOverlap_left (by omega) (by omega), cell?_clearOverlap_left hx hcut]
  · rw [set, cell?_write, if_neg (by omega), cell?_clearOverlap_left hx hcut]

/-- The cells right of a character do not depend on its tone. -/
theorem SameFrom.setChar (h : SameFrom c d x y) (hpos : 0 < columns ch) (tone tone' : Tone) :
    SameFrom (c.setChar x y ch tone) (d.setChar x y ch tone') (x + columns ch) y := by
  rw [Canvas.setChar, Canvas.setChar]
  split
  · rename_i htwo
    have hboth := (h.clearOverlap.mono (Nat.le_succ x)).clearOverlap.mono (Nat.le_succ _)
    rw [htwo]
    exact (hboth.write (by omega) _ _).write (Nat.lt_succ_self _) _ _
  · exact (h.clearOverlap.mono (by omega)).write (by omega) _ _

/-! ## Texts -/

section

variable {col limit : Nat} {text rest : List Char} {k : Option Cell}

theorem fitting_cons_of_zero (h : columns ch = 0) :
    fitting col limit (ch :: rest) = fitting col limit rest := by
  rw [fitting, places, if_pos h, fitting]

theorem fitting_cons_of_le (h : columns ch ≠ 0) (hfits : col + columns ch ≤ limit) :
    fitting col limit (ch :: rest) = (col, ch) :: fitting (col + columns ch) limit rest := by
  rw [fitting, places, if_neg h, List.takeWhile_cons_of_pos (by simpa using hfits), fitting]

theorem fitting_cons_of_lt (h : columns ch ≠ 0) (hfull : limit < col + columns ch) :
    fitting col limit (ch :: rest) = [] := by
  rw [fitting, places, if_neg h, List.takeWhile_cons_of_neg (by simpa using hfull)]

/-- A text that has room is not cut. -/
theorem fitting_eq_places (h : col + totalColumns text ≤ limit) :
    fitting col limit text = places col text := by
  induction text generalizing col with
  | nil => rfl
  | cons ch rest ih =>
      rw [totalColumns_cons] at h
      by_cases hzero : columns ch = 0
      · rw [fitting_cons_of_zero hzero, places, if_pos hzero, ih (by omega)]
      · rw [fitting_cons_of_le hzero (by omega), places, if_neg hzero, ih (by omega)]

theorem totalColumns_places (col : Nat) (text : List Char) :
    totalColumns ((places col text).map Prod.snd) = totalColumns text := by
  induction text generalizing col with
  | nil => rfl
  | cons ch rest ih =>
      rw [places, totalColumns_cons]
      split
      · rename_i hzero
        rw [ih, hzero, Nat.zero_add]
      · rw [List.map_cons, totalColumns_cons, ih]

/-- A text ends where the last character that has room does. -/
theorem putChars_col (hmax : limit < maxCoord ∨ col + totalColumns text ≤ limit) (c : Canvas)
    (y : Nat) (tone : Tone) :
    (c.putChars col y tone limit text).2 =
      col + totalColumns ((fitting col limit text).map Prod.snd) := by
  induction text generalizing c col with
  | nil => rfl
  | cons ch rest ih =>
      rw [totalColumns_cons] at hmax
      rw [putChars_cons]
      by_cases hzero : columns ch = 0
      · rw [if_pos hzero, fitting_cons_of_zero hzero, ih (by omega)]
      · rw [if_neg hzero]
        by_cases hfits : col + columns ch ≤ limit
        · rw [if_neg (by unfold addCoord; omega), fitting_cons_of_le hzero hfits, ih (by omega),
            List.map_cons, totalColumns_cons, Nat.add_assoc]
        · rw [if_pos (by unfold addCoord; omega), fitting_cons_of_lt hzero (by omega)]
          rfl

theorem le_putChars (c : Canvas) (col y : Nat) (tone : Tone) (limit : Nat) (text : List Char) :
    col ≤ (c.putChars col y tone limit text).2 := by
  induction text generalizing c col with
  | nil => exact Nat.le_refl col
  | cons ch rest ih =>
      rw [putChars_cons]
      split
      · exact ih c col
      · split
        · exact Nat.le_refl col
        · exact Nat.le_trans (Nat.le_add_right col _) (ih _ _)

theorem Spaced.putChars (h : c.Spaced y) (col : Nat) (tone : Tone) (limit : Nat)
    (text : List Char) : (c.putChars col y tone limit text).1.Spaced y := by
  induction text generalizing c col with
  | nil => exact h
  | cons ch rest ih =>
      rw [putChars_cons]
      split
      · exact ih h col
      · rename_i hzero
        split
        · exact h
        · exact ih (h.setChar (Nat.pos_of_ne_zero hzero) col tone) _

/-- What is kept stays while a text is written, and is then kept where the text ends. -/
theorem Kept.putChars (h : c.Kept x y col k) (tone : Tone) (limit : Nat) (text : List Char) :
    (c.putChars col y tone limit text).1.Kept x y (c.putChars col y tone limit text).2 k := by
  induction text generalizing c col with
  | nil => exact h
  | cons ch rest ih =>
      rw [putChars_cons]
      split
      · exact ih h
      · split
        · exact h
        · have hleft := h.left
          have hcell : (c.setChar col y ch tone).cell? x y = k := by
            rw [cell?_setChar_left hleft h.uncut, h.cell]
          exact ih ⟨hcell, by omega, by omega⟩

/-- The characters that have room are painted, and stay when the row is written on behind them. -/
theorem Spaced.kept_putChars (h : c.Spaced y) (hy : y < c.height) (hwidth : limit ≤ c.width)
    (tone : Tone) {p : Nat × Char} (hp : p ∈ fitting col limit text) :
    (c.putChars col y tone limit text).1.Kept p.1 y (c.putChars col y tone limit text).2
        (some ⟨p.2, tone⟩) ∧
      (columns p.2 = 2 →
        (c.putChars col y tone limit text).1.Kept (p.1 + 1) y
          (c.putChars col y tone limit text).2 (some ⟨Cell.continuationMark, tone⟩)) := by
  induction text generalizing c col with
  | nil => cases hp
  | cons ch rest ih =>
      rw [putChars_cons]
      by_cases hzero : columns ch = 0
      · rw [fitting_cons_of_zero hzero] at hp
        rw [if_pos hzero]
        exact ih h hy hwidth hp
      · by_cases hfits : col + columns ch ≤ limit
        · rw [if_neg hzero, if_neg (by unfold addCoord; omega)]
          rw [fitting_cons_of_le hzero hfits] at hp
          have hpos : 0 < columns ch := Nat.pos_of_ne_zero hzero
          have hright : col + columns ch ≤ c.width := by omega
          rcases List.mem_cons.mp hp with rfl | hp
          · -- the rest is written behind the first character and does not cut it
            obtain ⟨⟨hfirst, hsecond⟩, hmark⟩ := h.bears_setChar hright hpos hy tone
            constructor
            · have hkept : (c.setChar col y ch tone).Kept col y (col + columns ch) _ :=
                ⟨hfirst, by omega, fun hone => hmark (by omega)⟩
              exact hkept.putChars tone limit rest
            · intro (htwo : columns ch = 2)
              have hkept : (c.setChar col y ch tone).Kept (col + 1) y (col + columns ch) _ :=
                ⟨hsecond htwo, by omega, fun _ => hmark (by omega)⟩
              exact hkept.putChars tone limit rest
          · exact ih (h.setChar hpos col tone) (by simpa using hy) (by simpa using hwidth) hp
        · rw [fitting_cons_of_lt hzero (by omega)] at hp
          cases hp

/-- A text that has room for the columns of its characters is painted whole on them. -/
theorem Spaced.bears_putChars (h : c.Spaced y) (hy : y < c.height)
    (hlimit : col + totalColumns text ≤ limit) (hwidth : limit ≤ c.width) (tone : Tone) :
    (c.putChars col y tone limit text).2 = col + totalColumns text ∧
      ∀ p ∈ places col text, (c.putChars col y tone limit text).1.Bears p.1 y p.2 tone := by
  have hall := fitting_eq_places hlimit
  refine ⟨?_, fun p hp => ?_⟩
  · rw [putChars_col (.inr hlimit), hall, totalColumns_places]
  · obtain ⟨hfirst, hsecond⟩ := h.kept_putChars hy hwidth tone (hall ▸ hp)
    exact ⟨hfirst.cell, fun htwo => (hsecond htwo).cell⟩

/-- The columns a text is given, and the cells after it, do not depend on its tone. -/
theorem SameFrom.putChars (h : SameFrom c d col y) (tone tone' : Tone) (limit : Nat)
    (text : List Char) :
    (c.putChars col y tone limit text).2 = (d.putChars col y tone' limit text).2 ∧
      SameFrom (c.putChars col y tone limit text).1 (d.putChars col y tone' limit text).1
        (c.putChars col y tone limit text).2 y := by
  induction text generalizing c d col with
  | nil => exact ⟨rfl, h⟩
  | cons ch rest ih =>
      rw [putChars_cons, putChars_cons]
      split
      · exact ih h
      · rename_i hzero
        split
        · exact ⟨rfl, h⟩
        · exact ih (h.setChar (Nat.pos_of_ne_zero hzero) tone tone')

/-- A text stops at its end or before a character that has no room. -/
theorem putChars_stops (c : Canvas) (col y : Nat) (tone : Tone) (limit : Nat) (text : List Char) :
    (c.putChars col y tone limit text).2 = col + totalColumns text ∨
      ∃ ch, ((c.putChars col y tone limit text).2, ch) ∈ places col text := by
  induction text generalizing c col with
  | nil => exact .inl rfl
  | cons ch rest ih =>
      rw [putChars_cons, places, totalColumns_cons]
      by_cases hzero : columns ch = 0
      · rw [if_pos hzero, if_pos hzero, hzero, Nat.zero_add]
        exact ih c col
      · rw [if_neg hzero, if_neg hzero]
        split
        · exact .inr ⟨ch, List.mem_cons_self⟩
        · rcases ih (c.setChar col y ch tone) (col + columns ch) with hend | ⟨next, hnext⟩
          · exact .inl (hend.trans (Nat.add_assoc _ _ _))
          · exact .inr ⟨next, List.mem_cons_of_mem _ hnext⟩

end

/-- On a place that has the columns its measure asks for, a text is painted whole, and reported as
wide as it was measured, exactly if its characters have as many columns as the text.  They do if
none of them merges with its neighbours. -/
theorem putText_measured_iff {t : String} {limit : Nat} (hspaced : c.Spaced y) (hy : y < c.height)
    (hroom : x + displayWidth t ≤ min limit c.width) :
    ((∀ tone, (c.putText x y t tone limit).2 = displayWidth t ∧
        ∀ p ∈ places x t.toList, (c.putText x y t tone limit).1.Bears p.1 y p.2 tone) ↔
      totalColumns t.toList = displayWidth t) ∧
    ((∀ ch ∈ t.toList, IsSolitary ch) → totalColumns t.toList = displayWidth t) := by
  refine ⟨⟨?_, ?_⟩, fun h => (displayWidth_of_isSolitary h).symm⟩
  · intro hwhole
    obtain ⟨hreturned, hbears⟩ := hwhole .normal
    obtain ⟨-, hbears'⟩ := hwhole .title
    have hsame : SameFrom c c x y := fun _ _ => rfl
    obtain ⟨-, hcells⟩ := hsame.putChars .normal .title (min limit c.width) t.toList
    rcases putChars_stops c x y .normal (min limit c.width) t.toList with hend | ⟨ch, hch⟩
    · rw [putText_eq, hend, Nat.add_sub_cancel_left] at hreturned
      exact hreturned
    · -- the cell where the text stops does not depend on its tone, so in one tone at least it does
      -- not hold the character that has no room
      have hfirst := (hbears _ hch).1
      have hsecond := (hbears' _ hch).1
      rw [putText_eq] at hfirst hsecond
      rw [hcells _ (Nat.le_refl _), hsecond] at hfirst
      cases hfirst
  · intro hcolumns tone
    rw [← hcolumns] at hroom ⊢
    obtain ⟨hcol, hbears⟩ := hspaced.bears_putChars hy hroom (Nat.min_le_right _ _) tone
    rw [putText_eq, hcol]
    exact ⟨Nat.add_sub_cancel_left _ _, hbears⟩

theorem putText_measured_kanji :
    (blank 6 1).Spaced 0 ∧ 0 < (blank 6 1).height ∧
      0 + displayWidth "日本ok" ≤ min 6 (blank 6 1).width ∧
      ∀ tone, ((blank 6 1).putText 0 0 "日本ok" tone 6).2 = displayWidth "日本ok" ∧
        ∀ p ∈ places 0 "日本ok".toList,
          ((blank 6 1).putText 0 0 "日本ok" tone 6).1.Bears p.1 0 p.2 tone := by
  have hspaced := (aligned_blank 6 1).spaced 0
  have hroom : 0 + displayWidth "日本ok" ≤ min 6 (blank 6 1).width := by decide +kernel
  refine ⟨hspaced, by decide, hroom, ?_⟩
  exact (putText_measured_iff hspaced (by decide) hroom).1.mpr (by decide +kernel)

/-- A star measured as an emoji is painted on one column only, and of two emojis that are measured
as one the second is not painted. -/
theorem putText_not_measured :
    (0 + displayWidth "*\uFE0F" ≤ min 4 (blank 4 1).width ∧
      ((blank 4 1).putText 0 0 "*\uFE0F" .normal 4).2 ≠ displayWidth "*\uFE0F") ∧
    (0 + displayWidth "👩\u200D🚀" ≤ min 2 (blank 4 1).width ∧
      (2, '🚀') ∈ places 0 "👩\u200D🚀".toList ∧
      ¬ ((blank 4 1).putText 0 0 "👩\u200D🚀" .normal 2).1.Bears 2 0 '🚀' .normal) := by
  decide +kernel

end StatusBoard.Canvas
