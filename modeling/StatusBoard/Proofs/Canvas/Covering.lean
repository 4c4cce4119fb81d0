import StatusBoard.Proofs.Canvas.Drawing

/-!
Covering a region of a canvas with one character.

Next to the region, a cell is left as it is unless it held the outer half of a character that an
edge cuts; such a cell becomes a blank of its own tone.  This needs that both halves of a character
have one tone, which holds of everything that is drawn.
-/

namespace StatusBoard

open Text

/-- A cell of the same tone with nothing in it. -/
def Cell.blanked (k : Cell) : Cell := ⟨' ', k.tone⟩

/-- Whether a cell belongs to a region. -/
def Rect.Contains (r : Rect) (x y : Nat) : Prop :=
  r.x ≤ x ∧ x < r.right ∧ r.y ≤ y ∧ y < r.bottom

instance (r : Rect) (x y : Nat) : Decidable (r.Contains x y) :=
  inferInstanceAs (Decidable (_ ∧ _ ∧ _ ∧ _))

namespace Canvas

/-- Each mark has the tone of the cell before. -/
def Toned (c : Canvas) : Prop :=
  ∀ x y k m, c.cell? x y = some k → c.cell? (x + 1) y = some m → m.isContinuation = true →
    m.tone = k.tone

/-- Whether a cell holds the other half of a character that covers a position. -/
def IsOtherHalf (c : Canvas) (x y x' y' : Nat) : Prop :=
  y' = y ∧ (x' + 1 = x ∧ c.isMarkAt x y = true ∨
    x' = x + 1 ∧ c.isMarkAt x y = false ∧ c.isMarkAt (x + 1) y = true)

instance (c : Canvas) (x y x' y' : Nat) : Decidable (c.IsOtherHalf x y x' y') :=
  inferInstanceAs (Decidable (_ ∧ (_ ∨ _)))

/-- Whether a cell next to a region holds the outer half of a character that an edge of the region
cuts. -/
def IsCutBy (c : Canvas) (r : Rect) (x y : Nat) : Prop :=
  (r.y ≤ y ∧ y < r.bottom) ∧
    (x + 1 = r.x ∧ c.isWideAt x y = true ∨ x = r.right ∧ c.isMarkAt x y = true)

instance (c : Canvas) (r : Rect) (x y : Nat) : Decidable (c.IsCutBy r x y) :=
  inferInstanceAs (Decidable (_ ∧ (_ ∨ _)))

variable {c d : Canvas}

theorem isMarkAt_of_cell? {x y : Nat} {k : Cell} (h : c.cell? x y = some k) :
    c.isMarkAt x y = k.isContinuation := by
  rw [isMarkAt, h, Option.any_some]

theorem cell?_clearOverlap (hc : c.Toned) (x y x' y' : Nat) :
    (c.clearOverlap x y).cell? x' y' =
      if c.IsOtherHalf x y x' y' then (c.cell? x' y').map Cell.blanked else c.cell? x' y' := by
  rcases c.clearOverlap_cases x y with
    ⟨hm, rfl, he⟩ | ⟨hm, hx, k, hk, he⟩ | ⟨hm, hn, k, hk, he⟩ | ⟨hm, hn, he⟩
  · rw [he, if_neg]
    rintro ⟨-, ⟨hx', -⟩ | ⟨-, hm', -⟩⟩
    · exact absurd hx' (by omega)
    · exact absurd hm (by simp [hm'])
  · rw [he, cell?_write]
    by_cases hhalf : x' + 1 = x ∧ y' = y
    · obtain ⟨rfl, rfl⟩ := hhalf
      rw [Nat.add_sub_cancel] at hk ⊢
      rw [if_pos ⟨rfl, rfl, lt_of_cell? hk⟩, if_pos ⟨rfl, .inl ⟨rfl, hm⟩⟩, hk]
      rfl
    · rw [if_neg (by omega), if_neg]
      rintro ⟨hy', ⟨hx', -⟩ | ⟨-, hm', -⟩⟩
      · exact hhalf ⟨hx', hy'⟩
      · exact absurd hm (by simp [hm'])
  · obtain ⟨m, hcell, hmark⟩ := exists_of_isMarkAt hn
    rw [he, cell?_write]
    by_cases hhalf : x' = x + 1 ∧ y' = y
    · obtain ⟨rfl, rfl⟩ := hhalf
      rw [if_pos ⟨rfl, rfl, lt_of_cell? hcell⟩, if_pos ⟨rfl, .inr ⟨rfl, hm, hn⟩⟩, hcell,
        ← hc x y' k m hk hcell hmark]
      rfl
    · rw [if_neg (by omega), if_neg]
      rintro ⟨hy', ⟨-, hm'⟩ | ⟨hx', -⟩⟩
      · exact absurd hm' (by simp [hm])
      · exact hhalf ⟨hx', hy'⟩
  · rw [he, if_neg]
    rintro ⟨-, ⟨-, hm'⟩ | ⟨-, -, hn'⟩⟩
    · exact absurd hm' (by simp [hm])
    · exact absurd hn' (by simp [hn])

/-- Clearing keeps the tone of every cell and every mark that is left was there before. -/
theorem cell?_clearOverlap_cases (hc : c.Toned) {x y x' y' : Nat} {k : Cell}
    (h : (c.clearOverlap x y).cell? x' y' = some k) :
    ∃ l, c.cell? x' y' = some l ∧ k.tone = l.tone ∧ (k.isContinuation = true → k = l) := by
  rw [cell?_clearOverlap hc] at h
  split at h
  · obtain ⟨l, hl, rfl⟩ := Option.map_eq_some_iff.mp h
    exact ⟨l, hl, rfl, fun hk => by cases hk⟩
  · exact ⟨k, h, rfl, fun _ => rfl⟩

theorem Toned.clearOverlap (hc : c.Toned) (x y : Nat) : (c.clearOverlap x y).Toned := by
  intro x' y' k m hk hm hmark
  obtain ⟨l, hl, htone, -⟩ := cell?_clearOverlap_cases hc hk
  obtain ⟨n, hn, -, hsame⟩ := cell?_clearOverlap_cases hc hm
  obtain rfl := hsame hmark
  exact (hc x' y' l m hl hn hmark).trans htone.symm

theorem isMarkAt_clearOverlap (hc : c.Toned) {x' y' : Nat} (h : c.isMarkAt x' y' = false)
    (x y : Nat) : (c.clearOverlap x y).isMarkAt x' y' = false := by
  cases hmark : (c.clearOverlap x y).isMarkAt x' y' with
  | false => rfl
  | true =>
      obtain ⟨k, hk, hcont⟩ := exists_of_isMarkAt hmark
      obtain ⟨l, hl, -, hsame⟩ := cell?_clearOverlap_cases hc hk
      obtain rfl := hsame hcont
      rw [isMarkAt_of_cell? hl, hcont] at h
      cases h

/-- A cell can be written that no mark stands right of, a mark only if it has the tone of the cell
before. -/
theorem Toned.write (hc : c.Toned) {x y : Nat} (hnext : c.isMarkAt (x + 1) y = false) {k : Cell}
    (hk : k.isContinuation = true → ∀ l, 0 < x → c.cell? (x - 1) y = some l → k.tone = l.tone) :
    (c.write x y k).Toned := by
  intro x' y' l m hl hm hmark
  rw [cell?_write] at hl hm
  split at hm
  · rename_i hat
    obtain ⟨rfl, rfl, -⟩ := hat
    rw [Option.some.injEq] at hm
    subst hm
    rw [if_neg (by omega)] at hl
    exact hk hmark l (by omega) hl
  · split at hl
    · rename_i hat
      obtain ⟨rfl, rfl, -⟩ := hat
      rw [isMarkAt_of_cell? hm, hmark] at hnext
      cases hnext
    · exact hc x' y' l m hl hm hmark

theorem Toned.set (hc : c.Toned) (halign : c.Aligned) (x y : Nat) {ch : Char} (t : Tone)
    (h0 : 0 < columns ch) : (c.set x y ch t).Toned := by
  apply (hc.clearOverlap x y).write
  · exact (halign.gap_clearOverlap x y).stop
  · intro hmark
    rw [Cell.not_isContinuation_of_columns h0] at hmark
    cases hmark

theorem Toned.setWide (hc : c.Toned) (halign : c.Aligned) (x y : Nat) {ch : Char} (t : Tone)
    (h2 : columns ch = 2) : (c.setWide x y ch t).Toned := by
  have hgap := halign.gap_clearOverlap x y
  have hcleared := hc.clearOverlap x y
  have hfirst : Toned (((c.clearOverlap x y).clearOverlap (x + 1) y).write x y ⟨ch, t⟩) := by
    apply (hcleared.clearOverlap (x + 1) y).write
    · exact isMarkAt_clearOverlap hcleared hgap.stop _ _
    · intro hmark
      rw [Cell.not_isContinuation_of_columns (by simp only; omega)] at hmark
      cases hmark
  apply hfirst.write
  · rw [isMarkAt_write_of_ne _ _ (by omega)]
    exact (hgap.clearOverlap (by omega)).stop
  · intro _ l _ hl
    rw [cell?_write, Nat.add_sub_cancel] at hl
    split at hl
    · rw [Option.some.injEq] at hl
      rw [← hl]
    · rename_i hoff
      rw [cell?_eq_none (fun hin => hoff ⟨rfl, rfl, hin⟩)] at hl
      cases hl

theorem toned_blank (w h : Nat) : (blank w h).Toned := by
  intro x y k m hk hm hmark
  obtain ⟨hx, hy⟩ : x + 1 < w ∧ y < h := lt_of_cell? hm
  rw [cell?_blank hx hy, Option.some.injEq] at hm
  rw [← hm] at hmark
  cases hmark

theorem Draws.toned {p : Char → Prop} (h : Draws p c d) (halign : c.Aligned) (hc : c.Toned) :
    d.Toned := by
  induction h with
  | refl => exact hc
  | set x y t hd h0 _ _ ih => exact ih.set (hd.aligned halign) x y t h0
  | setWide y t hd h2 _ _ ih => exact ih.setWide (hd.aligned halign) _ y t h2

/-! ## Runs and regions -/

theorem setRun_self (c : Canvas) (start y : Nat) (ch : Char) (t : Tone) :
    c.setRun start start y ch t = c := by
  rw [setRun, Nat.sub_self]
  rfl

theorem setRun_succ (c : Canvas) {start stop : Nat} (h : start ≤ stop) (y : Nat) (ch : Char)
    (t : Tone) :
    c.setRun start (stop + 1) y ch t = (c.setRun start stop y ch t).set stop y ch t := by
  rw [setRun, setRun, Nat.sub_add_comm h, List.range'_1_concat, List.foldl_append,
    Nat.add_sub_cancel' h]
  rfl

section

variable (hc : c.Toned) (halign : c.Aligned)

include hc halign

theorem cell?_set {x y : Nat} (hx : x < c.width) (hy : y < c.height) (ch : Char) (t : Tone)
    (x' y' : Nat) :
    (c.set x y ch t).cell? x' y' =
      if x' = x ∧ y' = y then some ⟨ch, t⟩
      else if y' = y ∧ (x' + 1 = x ∧ c.isMarkAt x y = true ∨
        x' = x + 1 ∧ c.isMarkAt (x + 1) y = true) then (c.cell? x' y').map Cell.blanked
      else c.cell? x' y' := by
  have hhalf : c.IsOtherHalf x y x' y' ↔ y' = y ∧ (x' + 1 = x ∧ c.isMarkAt x y = true ∨
      x' = x + 1 ∧ c.isMarkAt (x + 1) y = true) := by
    have hmark : c.isMarkAt (x + 1) y = true → c.isMarkAt x y = false := by
      intro hnext
      rw [halign, isWideBefore_succ] at hnext
      cases hm : c.isMarkAt x y with
      | false => rfl
      | true =>
          rw [isWideAt_of_isMarkAt hm] at hnext
          cases hnext
    rw [IsOtherHalf]
    constructor
    · rintro ⟨rfl, h | ⟨hx', -, hn⟩⟩
      · exact ⟨rfl, .inl h⟩
      · exact ⟨rfl, .inr ⟨hx', hn⟩⟩
    · rintro ⟨rfl, h | ⟨hx', hn⟩⟩
      · exact ⟨rfl, .inl h⟩
      · exact ⟨rfl, .inr ⟨hx', hmark hn, hn⟩⟩
  rw [set, cell?_write, cell?_clearOverlap hc, width_clearOverlap, height_clearOverlap]
  by_cases hat : x' = x ∧ y' = y
  · rw [if_pos ⟨hat.1, hat.2, hx, hy⟩, if_pos hat]
  · rw [if_neg (fun h => hat ⟨h.1, h.2.1⟩), if_neg hat]
    simp only [hhalf]

variable {ch : Char} (h1 : columns ch = 1) (t : Tone)

include h1

/-- A run of a character covers its cells, and next to them only the outer halves of characters
that it cuts change. -/
theorem cell?_setRun {start stop y : Nat} (hlt : start < stop) (hstop : stop ≤ c.width)
    (hy : y < c.height) (x' y' : Nat) :
    (c.setRun start stop y ch t).cell? x' y' =
      if y' = y ∧ start ≤ x' ∧ x' < stop then some ⟨ch, t⟩
      else if y' = y ∧ (x' + 1 = start ∧ c.isMarkAt start y = true ∨
        x' = stop ∧ c.isMarkAt stop y = true) then (c.cell? x' y').map Cell.blanked
      else c.cell? x' y' := by
  obtain ⟨n, rfl⟩ : ∃ n, stop = start + n + 1 := ⟨stop - start - 1, by omega⟩
  induction n generalizing x' y' with
  | zero =>
      rw [Nat.add_zero, setRun_succ c (Nat.le_refl start), setRun_self,
        cell?_set hc halign (by omega) hy]
      have hcell : x' = start ↔ start ≤ x' ∧ x' < start + 1 := by omega
      simp only [hcell, and_comm]
  | succ n ih =>
      have hdrawn : Draws (fun _ => True) c (c.setRun start (start + n + 1) y ch t) :=
        Draws.refl.setRun _ _ _ t h1 trivial
      have hbefore := fun x' y' => ih x' y' (by omega) (by omega)
      have hmark : (c.setRun start (start + n + 1) y ch t).isMarkAt (start + n + 1) y = false := by
        rw [isMarkAt, hbefore, if_neg (by omega)]
        split
        · cases c.cell? (start + n + 1) y <;> rfl
        · rename_i h
          have hstop : ¬ c.isMarkAt (start + n + 1) y = true := fun hm => h ⟨rfl, .inr ⟨rfl, hm⟩⟩
          exact Bool.eq_false_iff.mpr hstop
      have hnext : (c.setRun start (start + n + 1) y ch t).isMarkAt (start + n + 1 + 1) y =
          c.isMarkAt (start + n + 1 + 1) y := by
        rw [isMarkAt, hbefore, if_neg (by omega), if_neg (by omega), isMarkAt]
      rw [show start + (n + 1) + 1 = start + n + 1 + 1 from rfl, setRun_succ c (by omega),
        cell?_set (hdrawn.toned halign hc) (hdrawn.aligned halign)
          (by rw [hdrawn.width_eq]; omega) (by rw [hdrawn.height_eq]; exact hy),
        hmark, hnext, hbefore]
      grind

/-- Runs in consecutive rows, of which none changes another row. -/
theorem cell?_rows {start stop y : Nat} (hlt : start < stop) (hstop : stop ≤ c.width) {n : Nat}
    (hn : y + n ≤ c.height) (x' y' : Nat) :
    ((List.range' y n).foldl (fun c y => c.setRun start stop y ch t) c).cell? x' y' =
      if start ≤ x' ∧ x' < stop ∧ y ≤ y' ∧ y' < y + n then some ⟨ch, t⟩
      else if (y ≤ y' ∧ y' < y + n) ∧ (x' + 1 = start ∧ c.isWideAt x' y' = true ∨
        x' = stop ∧ c.isMarkAt x' y' = true) then (c.cell? x' y').map Cell.blanked
      else c.cell? x' y' := by
  induction n generalizing x' y' with
  | zero =>
      rw [if_neg (by omega), if_neg (by omega)]
      rfl
  | succ n ih =>
      have hbefore := fun x' y' => ih (by omega) x' y'
      rw [List.range'_1_concat, List.foldl_append, List.foldl_cons, List.foldl_nil]
      generalize hd : (List.range' y n).foldl (fun c y => c.setRun start stop y ch t) c = d
      rw [hd] at hbefore
      have hdrawn : Draws (fun _ => True) c d :=
        hd ▸ Draws.refl.foldl (fun _ r he => he.setRun start stop r t h1 trivial) _
      have hrow : ∀ x, d.isMarkAt x (y + n) = c.isMarkAt x (y + n) := by
        intro x
        rw [isMarkAt, hbefore, if_neg (by omega), if_neg (by omega), isMarkAt]
      have hwide : x' + 1 = start → (c.isMarkAt start y' = true ↔ c.isWideAt x' y' = true) := by
        rintro rfl
        rw [halign, isWideBefore_succ]
      rw [cell?_setRun (hdrawn.toned halign hc) (hdrawn.aligned halign) h1 t hlt
        (by rw [hdrawn.width_eq]; exact hstop) (by rw [hdrawn.height_eq]; omega), hrow, hrow,
        hbefore]
      clear ih hbefore hrow hd
      by_cases hlast : y' = y + n
      · subst hlast
        grind
      · have hrows : y' < y + (n + 1) ↔ y' < y + n := by omega
        simp only [hlast, hrows, false_and, if_false]

/-- Filling a region of the canvas covers it, and blanks the outer halves of the characters that
its edges cut. -/
theorem cell?_fill {r : Rect} (hx : r.x < r.right) (hright : r.right ≤ c.width)
    (hy : r.y ≤ r.bottom) (hbottom : r.bottom ≤ c.height) (x y : Nat) :
    (c.fill r ch t).cell? x y =
      if r.Contains x y then some ⟨ch, t⟩
      else if c.IsCutBy r x y then (c.cell? x y).map Cell.blanked
      else c.cell? x y := by
  rw [fill, Nat.min_eq_left hright, Nat.min_eq_left hbottom,
    cell?_rows hc halign h1 t hx hright (by omega), Nat.add_sub_cancel' hy]
  rfl

end

end Canvas

end StatusBoard
