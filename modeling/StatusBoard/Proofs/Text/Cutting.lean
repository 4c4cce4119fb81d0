import StatusBoard.Proofs.Text.Utf8
import Mathlib.Data.List.Range

/-!
Decoding a text whose encoding has been cut in chunks, each chunk on its own.

A cut between two characters does not show.  Of a character that is cut itself, the part before
the first cut is one ill-formed piece and each byte after it is another.
-/

namespace StatusBoard.Text.Utf8

/-- Whether one of several chunks in a row begins or ends at a position. -/
def isCut : List (List UInt8) → Nat → Bool
  | [], p => p = 0
  | c :: cs, p => p = 0 || (c.length ≤ p && isCut cs (p - c.length))

/-- What is read of a character that is cut at some positions of its encoding. -/
def tear (cut : Nat → Bool) (c : Char) : List Char :=
  match (List.range c.utf8Size).find? fun k => 0 < k && cut k with
  | none => [c]
  | some k => List.replicate (1 + (c.utf8Size - k)) '\uFFFD'

/-- What is read of some characters that are cut at some positions of their encoding. -/
def fray : (Nat → Bool) → List Char → List Char
  | _, [] => []
  | cut, c :: cs => tear cut c ++ fray (fun p => cut (c.utf8Size + p)) cs

/-- The entries of bytes that are cut at some positions; what is unfinished there is ill-formed. -/
def unitsCut : (Nat → Bool) → Expect → List UInt8 → List (Option Char)
  | _, e, [] => unitsFrom e []
  | cut, e, b :: bs =>
      if cut 0 then
        unitsFrom e [] ++ ((step .first b).1 ++ unitsCut (fun p => cut (p + 1)) (step .first b).2 bs)
      else (step e b).1 ++ unitsCut (fun p => cut (p + 1)) (step e b).2 bs

/-! ## Chunks as cuts -/

theorem unitsCut_of_cut {cut : Nat → Bool} (h : cut 0 = true) (e : Expect) (bs : List UInt8) :
    unitsCut cut e bs = unitsFrom e [] ++ unitsCut cut .first bs := by
  cases bs with
  | nil => exact (List.append_nil _).symm
  | cons b bs => simp [unitsCut, h, unitsFrom]

theorem unitsCut_first_congr {cut cut' : Nat → Bool} (h : ∀ p, cut (p + 1) = cut' (p + 1))
    (bs : List UInt8) : unitsCut cut .first bs = unitsCut cut' .first bs := by
  cases bs with
  | nil => rfl
  | cons b bs => simp [unitsCut, unitsFrom, h]

theorem isCut_zero (chunks : List (List UInt8)) : isCut chunks 0 = true := by
  cases chunks <;> rfl

theorem unitsFrom_append_unitsCut (e : Expect) (c : List UInt8) (cs : List (List UInt8)) :
    unitsFrom e c ++ unitsCut (isCut cs) .first cs.flatten =
      unitsCut (fun p => c.length ≤ p && isCut cs (p - c.length)) e (c ++ cs.flatten) := by
  induction c generalizing e with
  | nil =>
      simp only [List.length_nil, Nat.zero_le, decide_true, Bool.true_and, Nat.sub_zero,
        List.nil_append]
      exact (unitsCut_of_cut (isCut_zero cs) e _).symm
  | cons b c ih =>
      rw [unitsFrom_cons, List.append_assoc, ih, List.cons_append, unitsCut]
      simp

/-- Chunks read one by one are the whole read with its cuts. -/
theorem flatMap_units (chunks : List (List UInt8)) :
    chunks.flatMap units = unitsCut (isCut chunks) .first chunks.flatten := by
  induction chunks with
  | nil => rfl
  | cons c cs ih =>
      rw [List.flatMap_cons, ih, units, unitsFrom_append_unitsCut, List.flatten_cons]
      apply unitsCut_first_congr
      intro p
      simp [isCut]

/-! ## Characters with cuts in them -/

theorem unitsCut_append_of_not_cut {cut : Nat → Bool} {e : Expect} {xs : List UInt8}
    (h : ∀ p < xs.length, cut p = false) (ys : List UInt8) :
    unitsCut cut e (xs ++ ys) =
      (run e xs).1 ++ unitsCut (fun p => cut (xs.length + p)) (run e xs).2 ys := by
  induction xs generalizing cut e with
  | nil => simp [run]
  | cons b xs ih =>
      have hzero : cut 0 = false := h 0 (Nat.succ_pos _)
      have hrest : ∀ p < xs.length, cut (p + 1) = false := fun p hp =>
        h (p + 1) (Nat.succ_lt_succ hp)
      simp [unitsCut, hzero, ih hrest, run, Nat.add_right_comm]

theorem unitsCut_append_of_none {xs : List UInt8} (h : ∀ b ∈ xs, lead b = .none)
    (cut : Nat → Bool) (ys : List UInt8) :
    unitsCut cut .first (xs ++ ys) =
      List.replicate xs.length none ++ unitsCut (fun p => cut (xs.length + p)) .first ys := by
  induction xs generalizing cut with
  | nil => simp
  | cons b xs ih =>
      have hstep : step .first b = ([none], .first) := by
        simp [step, begin, h b List.mem_cons_self]
      have hrest := ih (fun b' hb' => h b' (List.mem_cons_of_mem b hb')) fun p => cut (p + 1)
      simp [unitsCut, hstep, unitsFrom, hrest, List.replicate_succ, Nat.add_right_comm]

theorem lead_eq_none {b : UInt8} (h : 0x80 ≤ b.toNat) (h' : b.toNat < 0xC2) : lead b = .none := by
  simp [lead, h', Nat.not_lt.mpr h]

theorem lead_of_mem_tail (c : Char) : ∀ b ∈ (String.utf8EncodeChar c).tail, lead b = .none := by
  intro b hb
  rcases encodeChar_cases c with ⟨hone, -⟩ | ⟨first, rest, hmany, -, hrest⟩
  · rw [hone] at hb
    cases hb
  · rw [hmany] at hb
    obtain ⟨hlow, hhigh⟩ := hrest b hb
    exact lead_eq_none hlow (by omega)

theorem unitsFrom_step_of_nil {e : Expect} {b : UInt8} (h : (step e b).1 = []) :
    unitsFrom (step e b).2 [] = [none] := by
  have hbegin : (begin b).1 = [] → unitsFrom (begin b).2 [] = [none] := by
    unfold begin
    split
    · exact fun h => absurd h (List.cons_ne_nil _ _)
    · exact fun _ => rfl
    · exact fun h => absurd h (List.cons_ne_nil _ _)
  cases e with
  | first => exact hbegin h
  | more left low high value =>
      rw [step] at h ⊢
      split at h
      · rename_i hbounds
        rw [if_pos hbounds]
        cases left with
        | zero => exact absurd h (List.cons_ne_nil _ _)
        | succ left => rfl
      · exact absurd h (List.cons_ne_nil _ _)

theorem unitsFrom_run_of_nil {e : Expect} {bs : List UInt8} (hbs : bs ≠ [])
    (h : (run e bs).1 = []) : unitsFrom (run e bs).2 [] = [none] := by
  induction bs using List.reverseRecOn with
  | nil => exact absurd rfl hbs
  | append_singleton bs b ih =>
      rw [run_append] at h ⊢
      have hstep : (step (run e bs).2 b).1 = [] := by
        simpa [run] using (List.append_eq_nil_iff.mp h).2
      exact unitsFrom_step_of_nil hstep

/-- A first part of an encoding completes no character, for the rest then would not either. -/
theorem run_take (c : Char) {k : Nat} (hk : k < c.utf8Size) :
    (run .first ((String.utf8EncodeChar c).take k)).1 = [] := by
  have hwhole := run_encodeChar c
  have hrest : (String.utf8EncodeChar c).drop k ≠ [] := by
    rw [Ne, List.drop_eq_nil_iff, String.length_utf8EncodeChar]
    omega
  rw [← List.take_append_drop k (String.utf8EncodeChar c), run_append, Prod.mk.injEq] at hwhole
  obtain ⟨hentries, hlast⟩ := hwhole
  rcases List.append_eq_singleton_iff.mp hentries with ⟨hnil, -⟩ | ⟨-, hnil⟩
  · exact hnil
  · have hopen := unitsFrom_run_of_nil hrest hnil
    rw [hlast] at hopen
    cases hopen

/-- A character cut in its encoding: all that comes after the first cut starts nothing. -/
theorem unitsCut_encodeChar_of_cut {cut : Nat → Bool} {c : Char} {k : Nat} (hpos : 0 < k)
    (hk : k < c.utf8Size) (hcut : cut k = true) (hbefore : ∀ p < k, cut p = false)
    (ys : List UInt8) :
    unitsCut cut .first (String.utf8EncodeChar c ++ ys) =
      List.replicate (1 + (c.utf8Size - k)) none ++
        unitsCut (fun p => cut (c.utf8Size + p)) .first ys := by
  have htake : ((String.utf8EncodeChar c).take k).length = k := by
    rw [List.length_take, String.length_utf8EncodeChar, Nat.min_eq_left (Nat.le_of_lt hk)]
  have hdrop : ((String.utf8EncodeChar c).drop k).length = c.utf8Size - k := by
    rw [List.length_drop, String.length_utf8EncodeChar]
  have hne : (String.utf8EncodeChar c).take k ≠ [] := List.ne_nil_of_length_pos (by omega)
  have hrest : ∀ b ∈ (String.utf8EncodeChar c).drop k, lead b = .none := by
    intro b hb
    apply lead_of_mem_tail c
    rw [← List.drop_one]
    exact (List.drop_sublist_drop_left _ hpos).subset hb
  have hafter : (fun p => cut (k + (c.utf8Size - k + p))) = fun p => cut (c.utf8Size + p) := by
    funext p
    congr 1
    omega
  rw [← List.take_append_drop k (String.utf8EncodeChar c), List.append_assoc,
    unitsCut_append_of_not_cut (by rwa [htake]), run_take c hk, List.nil_append, htake,
    unitsCut_of_cut hcut, unitsFrom_run_of_nil hne (run_take c hk),
    unitsCut_append_of_none hrest, hdrop, hafter, ← List.append_assoc, Nat.add_comm,
    List.replicate_succ]
  rfl

theorem unitsCut_encodeChar (cut : Nat → Bool) (c : Char) (ys : List UInt8) :
    (unitsCut cut .first (String.utf8EncodeChar c ++ ys)).map (·.getD '\uFFFD') =
      tear cut c ++
        (unitsCut (fun p => cut (c.utf8Size + p)) .first ys).map (·.getD '\uFFFD') := by
  have hsize := Char.utf8Size_pos c
  have hafter : (fun p => decide (0 < c.utf8Size + p) && cut (c.utf8Size + p)) =
      fun p => cut (c.utf8Size + p) := by
    funext p
    simp [Nat.add_pos_left hsize]
  have hstart : unitsCut cut .first (String.utf8EncodeChar c ++ ys) =
      unitsCut (fun p => 0 < p && cut p) .first (String.utf8EncodeChar c ++ ys) :=
    unitsCut_first_congr (by simp) _
  rw [hstart]
  unfold tear
  split
  · rename_i hfind
    have hnone := List.find?_range_eq_none.mp hfind
    rw [unitsCut_append_of_not_cut, run_encodeChar, String.length_utf8EncodeChar, hafter]
    · rfl
    · intro p hp
      rw [String.length_utf8EncodeChar] at hp
      exact (Bool.not_eq_true' _).mp (hnone p hp)
  · rename_i k hfind
    obtain ⟨hcut, hmem, hbefore⟩ := List.find?_range_eq_some.mp hfind
    have hpos : 0 < k := by simpa using (Bool.and_eq_true_iff.mp hcut).1
    rw [unitsCut_encodeChar_of_cut hpos (List.mem_range.mp hmem) hcut
      fun p hp => (Bool.not_eq_true' _).mp (hbefore p hp), hafter]
    simp

theorem unitsCut_encode (cut : Nat → Bool) (cs : List Char) :
    (unitsCut cut .first (cs.flatMap String.utf8EncodeChar)).map (·.getD '\uFFFD') =
      fray cut cs := by
  induction cs generalizing cut with
  | nil => rfl
  | cons c cs ih => rw [List.flatMap_cons, unitsCut_encodeChar, ih, fray]

/-- A text whose encoding is cut in chunks reads, chunk by chunk, as the text frayed by the cuts. -/
theorem flatMap_decodeLossy {chunks : List (List UInt8)} {t : String}
    (h : chunks.flatten = encode t) :
    chunks.flatMap (fun c => (decodeLossy c).toList) = fray (isCut chunks) t.toList := by
  rw [← unitsCut_encode, ← encode, ← h, ← flatMap_units, List.map_flatMap]
  simp [decodeLossy]

theorem fray_isCut_of_encode {chunks : List (List UInt8)} {t : String}
    (h : chunks.flatten = encode t) (hwhole : ∀ c ∈ chunks, ∃ u, c = encode u) :
    fray (isCut chunks) t.toList = t.toList := by
  have hchunk : ∀ c ∈ chunks, encode (decodeLossy c) = c := by
    intro c hc
    obtain ⟨u, rfl⟩ := hwhole c hc
    rw [decodeLossy_encode]
  have hencode : (fray (isCut chunks) t.toList).flatMap String.utf8EncodeChar =
      t.toList.flatMap String.utf8EncodeChar := by
    calc (fray (isCut chunks) t.toList).flatMap String.utf8EncodeChar
        = chunks.flatMap fun c => encode (decodeLossy c) := by
          rw [← flatMap_decodeLossy h, List.flatMap_assoc]
          rfl
      _ = chunks.flatten := by
          rw [List.flatMap_def, List.map_congr_left hchunk, List.map_id']
      _ = t.toList.flatMap String.utf8EncodeChar := h
  rw [← chars_encode (fray (isCut chunks) t.toList), hencode, chars_encode]

end StatusBoard.Text.Utf8
