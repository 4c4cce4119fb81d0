import StatusBoard.Text.Utf8

/-!
Decoding what has been encoded, whole or cut.

`chars` gives the characters that bytes complete.  It undoes the encoding; of a cut encoding it
gives a first part of the characters; and an escape byte is read as such whatever was left
unfinished before it.
-/

namespace StatusBoard.Text.Utf8

/-- The entries that bytes complete, and what has to come next. -/
def run : Expect → List UInt8 → List (Option Char) × Expect
  | e, [] => ([], e)
  | e, b :: bs => ((step e b).1 ++ (run (step e b).2 bs).1, (run (step e b).2 bs).2)

theorem run_append (e : Expect) (xs ys : List UInt8) :
    run e (xs ++ ys) = ((run e xs).1 ++ (run (run e xs).2 ys).1, (run (run e xs).2 ys).2) := by
  induction xs generalizing e with
  | nil => simp [run]
  | cons b xs ih => simp [run, ih]

/-- The characters that bytes complete; ill-formed pieces give none. -/
def chars (bs : List UInt8) : List Char := (units bs).filterMap id

theorem unitsFrom_cons (e : Expect) (b : UInt8) (bs : List UInt8) :
    unitsFrom e (b :: bs) = (step e b).1 ++ unitsFrom (step e b).2 bs := by
  cases e <;> rfl

theorem unitsFrom_append (e : Expect) (xs ys : List UInt8) :
    unitsFrom e (xs ++ ys) = (run e xs).1 ++ unitsFrom (run e xs).2 ys := by
  induction xs generalizing e with
  | nil => rfl
  | cons b xs ih => rw [List.cons_append, unitsFrom_cons, ih, run, List.append_assoc]

theorem filterMap_unitsFrom (e : Expect) (bs : List UInt8) :
    (unitsFrom e bs).filterMap id = (run e bs).1.filterMap id := by
  induction bs generalizing e with
  | nil => cases e <;> rfl
  | cons b bs ih => rw [unitsFrom_cons, run, List.filterMap_append, List.filterMap_append, ih]

theorem chars_eq_run (bs : List UInt8) : chars bs = (run .first bs).1.filterMap id :=
  filterMap_unitsFrom .first bs

/-! ## Whole characters -/

theorem toNat_ofNat {n : Nat} (h : n < 256) : (UInt8.ofNat n).toNat = n := by
  rw [UInt8.toNat_ofNat']
  omega

theorem step_start {b low high : UInt8} {left value : Nat}
    (h : lead b = .start left low high value) : step .first b = ([], .more left low high value) := by
  simp [step, begin, h]

/-- A byte in the bounds is the next of several still to come. -/
theorem step_more {left value n : Nat} {low high : UInt8} (hlow : low.toNat ≤ n)
    (hhigh : n ≤ high.toNat) :
    step (.more (left + 1) low high value) (UInt8.ofNat n) =
      ([], .more left 0x80 0xBF (value * 64 + (n - 0x80))) := by
  have hn := toNat_ofNat (Nat.lt_of_le_of_lt hhigh high.toNat_lt)
  simp [step, UInt8.le_iff_toNat_le, hn, hlow, hhigh]

/-- A byte in the bounds is the last of a character. -/
theorem step_last {value n : Nat} {low high : UInt8} (hlow : low.toNat ≤ n)
    (hhigh : n ≤ high.toNat) :
    step (.more 0 low high value) (UInt8.ofNat n) =
      ([some (Char.ofNat (value * 64 + (n - 0x80)))], .first) := by
  have hn := toNat_ofNat (Nat.lt_of_le_of_lt hhigh high.toNat_lt)
  simp [step, UInt8.le_iff_toNat_le, hn, hlow, hhigh]

theorem lead_ofNat_two {n : Nat} (h : 0xC2 ≤ n) (h' : n < 0xE0) :
    lead (UInt8.ofNat n) = .start 0 0x80 0xBF (n - 0xC0) := by
  unfold lead
  simp only [toNat_ofNat (show n < 256 by omega)]
  rw [if_neg (by omega), if_neg (by omega), if_pos h']

theorem lead_ofNat_three {n : Nat} (h : 0xE0 ≤ n) (h' : n < 0xF0) :
    lead (UInt8.ofNat n) = .start 1 (if n = 0xE0 then 0xA0 else 0x80)
      (if n = 0xED then 0x9F else 0xBF) (n - 0xE0) := by
  unfold lead
  simp only [toNat_ofNat (show n < 256 by omega)]
  rw [if_neg (by omega), if_neg (by omega), if_neg (by omega), if_pos h']

theorem lead_ofNat_four {n : Nat} (h : 0xF0 ≤ n) (h' : n < 0xF5) :
    lead (UInt8.ofNat n) = .start 2 (if n = 0xF0 then 0x90 else 0x80)
      (if n = 0xF4 then 0x8F else 0xBF) (n - 0xF0) := by
  unfold lead
  simp only [toNat_ofNat (show n < 256 by omega)]
  rw [if_neg (by omega), if_neg (by omega), if_neg (by omega), if_neg (by omega), if_pos h']

theorem run_encodeChar (c : Char) : run .first (String.utf8EncodeChar c) = ([some c], .first) := by
  have hc : Char.ofNat c.val.toNat = c := Char.ofNat_toNat c
  have hvalid := c.valid
  rw [UInt32.isValidChar, Nat.isValidChar] at hvalid
  unfold String.utf8EncodeChar
  generalize c.val.toNat = v at hc hvalid ⊢
  simp only
  split
  · simp [run, step, begin, lead, toNat_ofNat (show v < 256 by omega), hc, show v < 128 by omega]
  · split
    · rw [run, step_start (lead_ofNat_two (by omega) (by omega)), run,
        step_last (by simp) (by simp; omega)]
      have hv : v / 64 % 32 * 64 + v % 64 = v := by omega
      simp [run, hv, hc]
    · split
      · rw [run, step_start (lead_ofNat_three (by omega) (by omega)), run,
          step_more (by split <;> simp; omega) (by split <;> simp <;> omega), run,
          step_last (by simp) (by simp; omega)]
        have hv : (v / 4096 % 16 * 64 + v / 64 % 64) * 64 + v % 64 = v := by omega
        simp [run, hv, hc]
      · rw [run, step_start (lead_ofNat_four (by omega) (by omega)), run,
          step_more (by split <;> simp; omega) (by split <;> simp <;> omega), run,
          step_more (by simp) (by simp; omega), run, step_last (by simp) (by simp; omega)]
        have hv : ((v / 262144 % 8 * 64 + v / 4096 % 64) * 64 + v / 64 % 64) * 64 + v % 64 = v := by
          omega
        simp [run, hv, hc]

/-- A character is encoded in one ASCII byte, or in a high byte and continuation bytes. -/
theorem encodeChar_cases (c : Char) :
    (String.utf8EncodeChar c = [UInt8.ofNat c.toNat] ∧ c.toNat < 0x80) ∨
      ∃ b bs, String.utf8EncodeChar c = b :: bs ∧ 0x80 ≤ b.toNat ∧
        ∀ b' ∈ bs, 0x80 ≤ b'.toNat ∧ b'.toNat < 0xC0 := by
  have hnext : ∀ n : Nat, 0x80 ≤ (UInt8.ofNat (n % 64 + 128)).toNat ∧
      (UInt8.ofNat (n % 64 + 128)).toNat < 0xC0 := by
    intro n
    rw [toNat_ofNat (by omega)]
    omega
  have hfirst : ∀ n : Nat, 0x80 ≤ n → n < 256 → 0x80 ≤ (UInt8.ofNat n).toNat := by
    intro n hn hlt
    rwa [toNat_ofNat hlt]
  change (String.utf8EncodeChar c = [UInt8.ofNat c.val.toNat] ∧ c.val.toNat < 0x80) ∨ _
  unfold String.utf8EncodeChar
  simp only
  split
  · exact .inl ⟨rfl, by omega⟩
  · right
    split
    · refine ⟨_, _, rfl, hfirst _ (by omega) (by omega), ?_⟩
      rintro _ (_ | ⟨_, ⟨⟩⟩)
      exact hnext _
    · split
      · refine ⟨_, _, rfl, hfirst _ (by omega) (by omega), ?_⟩
        rintro _ (_ | ⟨_, _ | ⟨_, ⟨⟩⟩⟩)
        · exact hnext _
        · exact hnext _
      · refine ⟨_, _, rfl, hfirst _ (by omega) (by omega), ?_⟩
        rintro _ (_ | ⟨_, _ | ⟨_, _ | ⟨_, ⟨⟩⟩⟩⟩)
        · exact hnext _
        · exact hnext _
        · exact hnext _

theorem run_encode (cs : List Char) :
    run .first (cs.flatMap String.utf8EncodeChar) = (cs.map some, .first) := by
  induction cs with
  | nil => rfl
  | cons c cs ih => simp [run_append, run_encodeChar, ih]

theorem chars_encode (cs : List Char) : chars (cs.flatMap String.utf8EncodeChar) = cs := by
  rw [chars_eq_run, run_encode]
  simp

theorem units_encode (t : String) : units (encode t) = t.toList.map some := by
  rw [units, encode, ← List.append_nil (t.toList.flatMap _), unitsFrom_append, run_encode]
  simp [unitsFrom]

theorem decodeLossy_encode (t : String) : decodeLossy (encode t) = t := by
  simp [decodeLossy, units_encode, Function.comp_def]

theorem decode?_encode (t : String) : decode? (encode t) = some t := by
  simp [decode?, units_encode, Function.comp_def]

/-! ## Cut text -/

/-- A cut encoding gives a first part of the characters. -/
theorem chars_prefix {part : List UInt8} {cs : List Char}
    (h : part <+: cs.flatMap String.utf8EncodeChar) : chars part <+: cs := by
  obtain ⟨rest, hrest⟩ := h
  have hrun := run_encode cs
  rw [← hrest, run_append, Prod.mk.injEq] at hrun
  refine ⟨((run (run .first part).2 rest).1).filterMap id, ?_⟩
  rw [chars_eq_run, ← List.filterMap_append, hrun.1]
  simp

/-- The bounds on the next byte leave out every ASCII byte. -/
def Expect.IsHigh : Expect → Prop
  | .first => True
  | .more _ low _ _ => 0x80 ≤ low.toNat

theorem low_of_lead {b low high : UInt8} {left value : Nat}
    (h : lead b = .start left low high value) : 0x80 ≤ low.toNat := by
  unfold lead at h
  simp only at h
  split at h
  · cases h
  split at h
  · cases h
  split at h
  · cases h
    decide
  split at h
  · injection h with _ hlow
    rw [← hlow]
    split <;> decide
  split at h
  · injection h with _ hlow
    rw [← hlow]
    split <;> decide
  · cases h

theorem isHigh_begin (b : UInt8) : (begin b).2.IsHigh := by
  unfold begin
  split
  · trivial
  · rename_i h
    exact low_of_lead h
  · trivial

theorem isHigh_step (e : Expect) (b : UInt8) : (step e b).2.IsHigh := by
  cases e with
  | first => exact isHigh_begin b
  | more left low high value =>
      rw [step]
      split
      · cases left with
        | zero => trivial
        | succ left => simp [Expect.IsHigh]
      · exact isHigh_begin b

theorem isHigh_run {e : Expect} (he : e.IsHigh) (bs : List UInt8) : (run e bs).2.IsHigh := by
  induction bs generalizing e with
  | nil => exact he
  | cons b bs ih => exact ih (isHigh_step e b)

/-- An escape byte is one character, and what is unfinished before it is none. -/
theorem run_escape {e : Expect} (he : e.IsHigh) (bs : List UInt8) :
    (run e (0x1b :: bs)).1.filterMap id = (run .first (0x1b :: bs)).1.filterMap id := by
  cases e with
  | first => rfl
  | more left low high value =>
      have hlow : ¬ low ≤ 0x1b := by
        rw [UInt8.le_iff_toNat_le]
        exact fun h => absurd (Nat.le_trans he h) (by decide)
      simp [run, step, hlow]

theorem chars_append_escape (xs bs : List UInt8) :
    chars (xs ++ 0x1b :: bs) = chars xs ++ chars (0x1b :: bs) := by
  rw [chars_eq_run, chars_eq_run, chars_eq_run, run_append, List.filterMap_append,
    run_escape (isHigh_run (show Expect.first.IsHigh from trivial) xs)]

/-- A newline byte is a newline, whatever is unfinished before it. -/
theorem getLast?_decodeLossy {bs : List UInt8} (h : bs.getLast? = some 0x0A) :
    (decodeLossy bs).toList.getLast? = some '\n' := by
  obtain ⟨xs, rfl⟩ := List.getLast?_eq_some_iff.mp h
  have hhigh : (run .first xs).2.IsHigh := isHigh_run (show Expect.first.IsHigh from trivial) xs
  have hlast : ∀ e : Expect, e.IsHigh → ∃ us, unitsFrom e [0x0A] = us ++ [some '\n'] := by
    intro e he
    cases e with
    | first => exact ⟨[], rfl⟩
    | more left low high value =>
        have hlow : ¬ low ≤ 0x0A := by
          rw [UInt8.le_iff_toNat_le]
          exact fun h => absurd (Nat.le_trans he h) (by decide)
        have hbegin : begin 0x0A = ([some '\n'], .first) := rfl
        exact ⟨[none], by simp [unitsFrom, step, hlow, hbegin]⟩
  obtain ⟨us, hus⟩ := hlast _ hhigh
  rw [decodeLossy, units, unitsFrom_append, hus]
  simp

end StatusBoard.Text.Utf8
