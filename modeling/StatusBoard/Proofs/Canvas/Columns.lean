import Mathlib.Data.List.TakeWhile
import StatusBoard.Proofs.Canvas.Inscription

/-!
Sums of columns.

Whether a character still fits is asked of a sum that is cut at the largest coordinate; the next
column is the sum itself.  The two differ only where the limit is the largest coordinate, and there
every character fits: the text stays on the canvas exactly if its columns do.
-/

namespace StatusBoard.Canvas

open Text

/-- The characters of a text that pass the comparison with the limit, each with the column it is
written at. -/
def painted (col limit : Nat) (text : List Char) : List (Nat × Char) :=
  (places col text).takeWhile fun p => addCoord p.1 (columns p.2) ≤ limit

variable {c : Canvas} {x y col limit : Nat} {ch : Char} {rest text : List Char} {t : Tone}

theorem painted_cons_of_zero (h : columns ch = 0) :
    painted col limit (ch :: rest) = painted col limit rest := by
  rw [painted, places, if_pos h, painted]

theorem painted_cons_of_le (h : columns ch ≠ 0) (hfits : ¬ limit < addCoord col (columns ch)) :
    painted col limit (ch :: rest) = (col, ch) :: painted (col + columns ch) limit rest := by
  rw [painted, places, if_neg h, List.takeWhile_cons_of_pos (by simpa using hfits), painted]

theorem painted_cons_of_lt (h : columns ch ≠ 0) (hfull : limit < addCoord col (columns ch)) :
    painted col limit (ch :: rest) = [] := by
  rw [painted, places, if_neg h, List.takeWhile_cons_of_neg (by simpa using hfull)]

/-! ## The loop over the characters -/

/-- Without a bound on columns the characters are written one after the other. -/
theorem putChars_eq_foldl (c : Canvas) (col y : Nat) (t : Tone) (limit : Nat) (text : List Char) :
    c.putChars col y t limit text =
      ((painted col limit text).foldl (fun c p => c.setChar p.1 y p.2 t) c,
        col + totalColumns ((painted col limit text).map Prod.snd)) := by
  induction text generalizing c col with
  | nil => rfl
  | cons ch rest ih =>
      rw [putChars_cons]
      split
      · rename_i hzero
        rw [painted_cons_of_zero hzero, ih]
      · rename_i hzero
        split
        · rename_i hfull
          rw [painted_cons_of_lt hzero hfull]
          rfl
        · rename_i hfits
          rw [painted_cons_of_le hzero hfits, ih, List.foldl_cons, List.map_cons,
            totalColumns_cons, Nat.add_assoc]

theorem putChars?_cons (c : Canvas) (col y : Nat) (t : Tone) (limit : Nat) (ch : Char)
    (rest : List Char) :
    c.putChars? col y t limit (ch :: rest) =
      if columns ch = 0 then c.putChars? col y t limit rest
      else if limit < addCoord col (columns ch) then some (c, col)
      else if col + columns ch ≤ maxCoord then
        (c.setChar col y ch t).putChars? (col + columns ch) y t limit rest
      else none := by
  rw [putChars?]
  split
  · rename_i hwidth
    simp [columns, hwidth]
  · rename_i hwidth
    simp [columns, hwidth]
  · rename_i w hne hwidth
    have hcolumns : columns ch = w := by simp [columns, hwidth]
    rw [hcolumns, if_neg hne]
    split
    · rfl
    · -- the column of the right half is a coordinate if the one after it is
      by_cases hsum : col + w ≤ maxCoord
      · rw [if_pos hsum, setChar, hcolumns, addCoord?, if_pos hsum]
        by_cases htwo : w = 2
        · simp [htwo, setWide?, addCoord?, show col + 1 ≤ maxCoord by omega]
        · simp [htwo]
      · rw [if_neg hsum, addCoord?, if_neg hsum]
        by_cases htwo : w = 2
        · cases c.setWide? col y ch t <;> simp [htwo]
        · simp [htwo]

/-- With checked sums the characters are written likewise, as long as every one ends on a
coordinate. -/
theorem putChars?_eq (c : Canvas) (col y : Nat) (t : Tone) (limit : Nat) (text : List Char) :
    c.putChars? col y t limit text =
      if ∀ p ∈ painted col limit text, p.1 + columns p.2 ≤ maxCoord then
        some (c.putChars col y t limit text)
      else none := by
  induction text generalizing c col with
  | nil => rfl
  | cons ch rest ih =>
      rw [putChars?_cons, putChars_cons]
      by_cases hzero : columns ch = 0
      · rw [if_pos hzero, if_pos hzero, painted_cons_of_zero hzero, ih]
      · rw [if_neg hzero, if_neg hzero]
        by_cases hfull : limit < addCoord col (columns ch)
        · rw [if_pos hfull, if_pos hfull, painted_cons_of_lt hzero hfull]
          simp
        · rw [if_neg hfull, if_neg hfull, painted_cons_of_le hzero hfull, ih]
          by_cases hsum : col + columns ch ≤ maxCoord
          · simp only [List.forall_mem_cons, hsum, true_and, if_true]
          · simp only [List.forall_mem_cons, hsum, false_and, if_false]

theorem putText?_eq (c : Canvas) (x y : Nat) (text : String) (t : Tone) (limit : Nat) :
    c.putText? x y text t limit =
      if ∀ p ∈ painted x (min limit c.width) text.toList, p.1 + columns p.2 ≤ maxCoord then
        some (c.putText x y text t limit)
      else none := by
  rw [putText?, putChars?_eq, putText_eq]
  split
  · simp [putChars_eq_foldl]
  · rfl

theorem putText?_eq_none {p : Nat × Char} {text : String}
    (hp : p ∈ painted x (min limit c.width) text.toList) (hpast : maxCoord < p.1 + columns p.2) :
    c.putText? x y text t limit = none := by
  rw [putText?_eq, if_neg fun hall => Nat.not_le.mpr hpast (hall p hp)]

/-! ## Where the sums are coordinates -/

/-- Some character ends where the text ends. -/
theorem exists_place_past {last : Nat} (hcol : col ≤ last) (h : last < col + totalColumns text) :
    ∃ p ∈ places col text, last < p.1 + columns p.2 := by
  induction text generalizing col with
  | nil => exact absurd h (Nat.not_lt.mpr hcol)
  | cons ch rest ih =>
      rw [totalColumns_cons] at h
      rw [places]
      split
      · exact ih hcol (by omega)
      · by_cases hpast : last < col + columns ch
        · exact ⟨(col, ch), List.mem_cons_self, hpast⟩
        · obtain ⟨p, hp, hlast⟩ := ih (Nat.not_lt.mp hpast) (by omega)
          exact ⟨p, List.mem_cons_of_mem _ hp, hlast⟩

/-- At the largest coordinate every character passes the comparison. -/
theorem painted_maxCoord (col : Nat) (text : List Char) :
    painted col maxCoord text = places col text :=
  List.takeWhile_eq_self_iff.mpr fun _ _ => decide_eq_true (Nat.min_le_right _ _)

/-- Below it, or if the text ends before it, those pass that end at the limit or before. -/
theorem painted_eq_fitting (h : limit < maxCoord ∨ col + totalColumns text ≤ maxCoord) :
    painted col limit text = fitting col limit text := by
  induction text generalizing col with
  | nil => rfl
  | cons ch rest ih =>
      rw [totalColumns_cons] at h
      by_cases hzero : columns ch = 0
      · rw [painted_cons_of_zero hzero, fitting_cons_of_zero hzero, ih (by omega)]
      · by_cases hfull : limit < addCoord col (columns ch)
        · have hsum := Nat.lt_of_lt_of_le hfull (Nat.min_le_left _ _)
          rw [painted_cons_of_lt hzero hfull, fitting_cons_of_lt hzero hsum]
        · have hfits : col + columns ch ≤ limit := by
            unfold addCoord at hfull
            omega
          rw [painted_cons_of_le hzero hfull, fitting_cons_of_le hzero hfits, ih (by omega)]

/-- Text is written without a sum of columns that is no coordinate, and it keeps to its columns and
to the canvas. -/
structure KeepsColumns (c : Canvas) (x y : Nat) (text : String) (t : Tone) (limit : Nat) :
    Prop where
  exact : c.putText? x y text t limit = some (c.putText x y text t limit)
  stays : x ≤ min limit c.width → ∀ p ∈ painted x (min limit c.width) text.toList,
    p.1 + columns p.2 ≤ min limit c.width
  whole : ∀ p ∈ painted x (min limit c.width) text.toList, columns p.2 = 2 → p.1 + 1 < c.width

/-- Text keeps its columns exactly if the limit or the right edge is below the largest coordinate,
or the whole text ends there at the latest. -/
theorem putText_keeps_columns_iff (hwidth : c.width ≤ maxCoord) (hx : x ≤ maxCoord) (y : Nat)
    (text : String) (t : Tone) (limit : Nat) :
    KeepsColumns c x y text t limit ↔
      min limit c.width < maxCoord ∨ x + totalColumns text.toList ≤ maxCoord := by
  constructor
  · intro hkeeps
    rcases Nat.lt_or_ge (min limit c.width) maxCoord with hbelow | hat
    · exact .inl hbelow
    · -- every character is painted, and one that ends too far on would stop the writing
      refine .inr (Nat.not_lt.mp fun hlong => ?_)
      obtain ⟨p, hp, hpast⟩ := exists_place_past hx hlong
      have hlimit : min limit c.width = maxCoord := by omega
      rw [← painted_maxCoord, ← hlimit] at hp
      have hexact := hkeeps.exact
      rw [putText?_eq_none hp hpast] at hexact
      cases hexact
  · intro hends
    have hpainted := painted_eq_fitting hends
    have hstays : ∀ p ∈ painted x (min limit c.width) text.toList,
        p.1 + columns p.2 ≤ min limit c.width := fun p hp =>
      (mem_fitting (hpainted ▸ hp)).2.1
    refine ⟨?_, fun _ => hstays, fun p hp htwo => ?_⟩
    · rw [putText?_eq, if_pos fun p hp => by have := hstays p hp; omega]
    · have := hstays p hp
      omega

/-- On the widest canvas a text may end with the last column, but not after it. -/
theorem putText_keeps_last_columns :
    (blank maxCoord 1).width ≤ maxCoord ∧ 65530 ≤ maxCoord ∧
      KeepsColumns (blank maxCoord 1) 65530 0 "日本a" .normal maxCoord ∧
      ¬ KeepsColumns (blank maxCoord 1) 65530 0 "日本語" .normal maxCoord := by
  have hwidth : (blank maxCoord 1).width ≤ maxCoord := Nat.le_refl maxCoord
  have hx : 65530 ≤ maxCoord := by decide
  refine ⟨hwidth, hx, (putText_keeps_columns_iff hwidth hx 0 "日本a" .normal maxCoord).mpr ?_,
    fun hkeeps => ?_⟩
  · exact .inr (by decide +kernel)
  · rcases (putText_keeps_columns_iff hwidth hx 0 "日本語" .normal maxCoord).mp hkeeps with h | h
    · rw [width_blank, Nat.min_self] at h
      exact absurd h (Nat.lt_irrefl _)
    · exact absurd h (by decide +kernel)

/-- A character of two columns is written although only its left half has a column, and then the
next column is no coordinate. -/
theorem not_keepsColumns_last_column :
    (65534, '日') ∈ painted 65534 (min maxCoord (blank maxCoord 1).width) "日".toList ∧
      (blank maxCoord 1).putText? 65534 0 "日" .normal maxCoord = none ∧
      ¬ KeepsColumns (blank maxCoord 1) 65534 0 "日" .normal maxCoord := by
  have hlast : (65534, '日') ∈ painted 65534 (min maxCoord (blank maxCoord 1).width)
      "日".toList := by
    rw [width_blank, Nat.min_self, painted_maxCoord]
    decide +kernel
  have hnone : (blank maxCoord 1).putText? 65534 0 "日" .normal maxCoord = none :=
    putText?_eq_none hlast (by decide +kernel)
  refine ⟨hlast, hnone, fun hkeeps => ?_⟩
  have hexact := hkeeps.exact
  rw [hnone] at hexact
  cases hexact

end StatusBoard.Canvas
