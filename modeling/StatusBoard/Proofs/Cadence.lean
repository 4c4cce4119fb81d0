import StatusBoard.Proofs.Config.Checks
import Mathlib.Data.Nat.ModEq
import Mathlib.Logic.ExistsUnique

/-!
Clears come at even distances, which the configuration determines.

The distance is counted in ticks.  It is as long as it can be without exceeding the time that is
asked for, and it is computed in words of 64 bits, as are the ticks themselves.
-/

namespace StatusBoard

namespace Cadence

/-! ## Distances -/

section

variable {tickMs clearMs : Nat}

theorem clearEvery_pos (tickMs clearMs : Nat) : 1 ≤ clearEvery tickMs clearMs :=
  Nat.le_max_right ..

/-- The ticks from one clear to the next fill the time between clears up to less than one tick. -/
theorem clearEvery_bounds (htick : 0 < tickMs) (hclear : tickMs ≤ clearMs) :
    clearEvery tickMs clearMs * tickMs ≤ clearMs ∧
      clearMs < (clearEvery tickMs clearMs + 1) * tickMs := by
  have hquotient : clearEvery tickMs clearMs = clearMs / tickMs := by
    have hone : 1 ≤ clearMs / tickMs := (Nat.one_le_div_iff htick).mpr hclear
    rw [clearEvery, Nat.max_eq_left htick, Nat.max_eq_left hone]
  rw [hquotient]
  exact ⟨Nat.div_mul_le_self clearMs tickMs, Nat.lt_mul_of_div_lt (Nat.lt_succ_self _) htick⟩

variable {every : Nat}

theorem clears_iff (hevery : 1 ≤ every) (t : Nat) : clears t every = true ↔ t ≡ 1 [MOD every] := by
  rw [clears, Nat.max_eq_left hevery, decide_eq_true_eq]
  rfl

theorem clears_one (hevery : 1 ≤ every) : clears 1 every = true :=
  (clears_iff hevery 1).mpr rfl

/-- Two clears are a whole number of distances apart. -/
theorem dvd_of_clears (hevery : 1 ≤ every) {s t : Nat} (hst : s ≤ t) (hs : clears s every = true)
    (ht : clears t every = true) : every ∣ t - s :=
  (Nat.modEq_iff_dvd' hst).mp
    (((clears_iff hevery s).mp hs).trans ((clears_iff hevery t).mp ht).symm)

theorem eq_of_clears (hevery : 1 ≤ every) {s t : Nat} (hst : s ≤ t) (hlt : t < s + every)
    (hs : clears s every = true) (ht : clears t every = true) : s = t := by
  have hzero := Nat.eq_zero_of_dvd_of_lt (dvd_of_clears hevery hst hs ht) (by omega)
  omega

theorem clears_add (hevery : 1 ≤ every) {t : Nat} (ht : clears t every = true) :
    clears (t + every) every = true := by
  rw [clears_iff hevery] at ht ⊢
  exact (Nat.add_modEq_right).trans ht

theorem exists_clears (hevery : 1 ≤ every) (t : Nat) :
    ∃ s, (t ≤ s ∧ s < t + every) ∧ clears s every = true := by
  have hmod := Nat.mod_lt t hevery
  have hnext : t + (every - t % every + 1) = 1 + every * (t / every + 1) := by
    have := Nat.div_add_mod t every
    rw [Nat.mul_add, Nat.mul_one]
    omega
  have hlt : (every - t % every + 1) % every < every := Nat.mod_lt _ hevery
  refine ⟨t + (every - t % every + 1) % every, ⟨by omega, by omega⟩, ?_⟩
  rw [clears_iff hevery]
  calc t + (every - t % every + 1) % every
    _ ≡ t + (every - t % every + 1) [MOD every] := (Nat.mod_modEq _ _).add_left t
    _ = 1 + every * (t / every + 1) := hnext
    _ ≡ 1 [MOD every] := Nat.add_mul_mod_self_left ..

/-- Among as many ticks in a row as one clear is from the next, there is one that clears. -/
theorem existsUnique_clears (hevery : 1 ≤ every) (t : Nat) :
    ∃! s, (t ≤ s ∧ s < t + every) ∧ clears s every = true := by
  obtain ⟨s, ⟨hle, hbelow⟩, hs⟩ := exists_clears hevery t
  refine ⟨s, ⟨⟨hle, hbelow⟩, hs⟩, ?_⟩
  rintro u ⟨⟨hle', hbelow'⟩, hu⟩
  rcases Nat.le_total u s with hus | hsu
  · exact eq_of_clears hevery hus (by omega) hu hs
  · exact (eq_of_clears hevery hsu (by omega) hs hu).symm

/-- The next clear comes after exactly the distance. -/
theorem next_clear (hevery : 1 ≤ every) {s t : Nat} (hst : s < t) (hs : clears s every = true)
    (ht : clears t every = true) (hnone : ∀ u, s < u → u < t → clears u every = false) :
    t = s + every := by
  have hle : every ≤ t - s := Nat.le_of_dvd (by omega) (dvd_of_clears hevery hst.le hs ht)
  by_contra hne
  have hbetween := hnone (s + every) (by omega) (by omega)
  rw [clears_add hevery hs] at hbetween
  cases hbetween

end

/-! ## Words -/

/-- The product of two words, or the largest word if the product is larger. -/
def boundedMul (a b : UInt64) : UInt64 :=
  if a.toNat * b.toNat < UInt64.size then a * b else UInt64.ofNat (UInt64.size - 1)

/-- A quotient of words, if it is not by zero. -/
def quotient? (a b : UInt64) : Option UInt64 := if b = 0 then none else some (a / b)

/-- A remainder of words, if it is not by zero. -/
def remainder? (a b : UInt64) : Option UInt64 := if b = 0 then none else some (a % b)

/-- Whether a tick clears, computed in words. -/
def clearsWord? (tick every : UInt64) : Option Bool := do
  let every := if every = 0 then 1 else every
  let place ← remainder? tick every
  let first ← remainder? 1 every
  return place = first

theorem toNat_boundedMul (a b : UInt64) :
    (boundedMul a b).toNat = min (a.toNat * b.toNat) (2 ^ 64 - 1) := by
  rw [boundedMul]
  split
  · rename_i h
    rw [UInt64.toNat_mul, Nat.mod_eq_of_lt h]
    exact (Nat.min_eq_left (Nat.le_sub_one_of_lt h)).symm
  · rename_i h
    have hlarge : 2 ^ 64 - 1 ≤ a.toNat * b.toNat :=
      Nat.le_trans (Nat.sub_le ..) (Nat.le_of_not_lt h)
    rw [Nat.min_eq_right hlarge]
    rfl

theorem toNat_max (a b : UInt64) : (max a b).toNat = max a.toNat b.toNat := by
  change (if a ≤ b then b else a).toNat = _
  split
  · rename_i h
    exact (Nat.max_eq_right (UInt64.le_iff_toNat_le.mp h)).symm
  · rename_i h
    exact (Nat.max_eq_left (Nat.le_of_not_le fun hle => h (UInt64.le_iff_toNat_le.mpr hle))).symm

theorem quotient?_eq {a b : UInt64} (hb : 0 < b.toNat) :
    ∃ q, quotient? a b = some q ∧ q.toNat = a.toNat / b.toNat := by
  have hne : b ≠ 0 := by
    rintro rfl
    cases hb
  exact ⟨a / b, if_neg hne, UInt64.toNat_div a b⟩

theorem clearsWord?_eq {every : UInt64} (hevery : 1 ≤ every.toNat) (t : UInt64) :
    clearsWord? t every = some (clears t.toNat every.toNat) := by
  have hne : every ≠ 0 := by
    rintro rfl
    cases hevery
  rw [clearsWord?, clears, Nat.max_eq_left hevery]
  simp only [if_neg hne, remainder?, Option.bind_eq_bind, Option.bind_some, Option.pure_def]
  rw [Option.some.injEq, decide_eq_decide, ← UInt64.toNat_inj, UInt64.toNat_mod, UInt64.toNat_mod]
  rfl

end Cadence

namespace Config

open Cadence

/-- The number of ticks from one clear to the next, computed in words. -/
def Refresh.clearEveryWord? (r : Refresh) : Option UInt64 :=
  (quotient? (boundedMul r.clearSecs 1000) (max r.tickMs 1)).map (max · 1)

theorem Refresh.toNat_boundedMul_clearSecs (r : Refresh) :
    (boundedMul r.clearSecs 1000).toNat = r.clearMs :=
  toNat_boundedMul r.clearSecs 1000

/-- No word is divided by zero, and the result is the number itself. -/
theorem Refresh.clearEveryWord?_eq (r : Refresh) :
    ∃ every, r.clearEveryWord? = some every ∧ every.toNat = r.clearEvery := by
  have hmax : (max r.tickMs 1).toNat = max r.tickMs.toNat 1 := toNat_max r.tickMs 1
  obtain ⟨q, hq, htoNat⟩ := quotient?_eq (a := boundedMul r.clearSecs 1000) (b := max r.tickMs 1)
    (by omega)
  refine ⟨max q 1, by rw [clearEveryWord?, hq, Option.map_some], ?_⟩
  rw [toNat_max, htoNat, r.toNat_boundedMul_clearSecs, hmax]
  rfl

/-- A configuration that has been loaded has the console cleared in the second tick and then at
even distances, which are not longer than the time that is asked for and less than one tick
shorter.  What is computed in words neither divides by zero nor differs from the numbers meant. -/
theorem clears_at_even_distances {path : Option String} {f : Source.File}
    {lookup : String → Option String} {c : Config} (h : load path f lookup = .ok c) :
    let tick := c.refresh.tickMs.toNat
    let asked := min (1000 * c.refresh.clearSecs.toNat) (2 ^ 64 - 1)
    let e := c.refresh.clearEvery
    (∃ every, c.refresh.clearEveryWord? = some every ∧ every.toNat = e ∧
      ∀ t, clearsWord? t every = some (clears t.toNat e)) ∧
    1 ≤ e ∧ (e * tick ≤ asked ∧ asked < (e + 1) * tick) ∧
    clears 1 e = true ∧
    (∀ t, ∃! s, (t ≤ s ∧ s < t + e) ∧ clears s e = true) ∧
    ∀ s t, s < t → clears s e = true → clears t e = true →
      (∀ u, s < u → u < t → clears u e = false) →
      (t - s) * tick ≤ asked ∧ asked < (t - s + 1) * tick := by
  intro tick asked e
  have hlimits := keepsLimits_of_load h
  have hasked : c.refresh.clearMs = asked := by
    rw [Refresh.clearMs, Nat.mul_comm]
    rfl
  have htick : 0 < tick := by
    refine Nat.pos_of_ne_zero fun hzero => hlimits.tick_ne ?_
    exact UInt64.toNat_inj.mp hzero
  have hevery : 1 ≤ e := clearEvery_pos _ _
  have hbounds : e * tick ≤ asked ∧ asked < (e + 1) * tick := by
    rw [← hasked]
    exact clearEvery_bounds htick hlimits.tick_le
  obtain ⟨every, hword, htoNat⟩ := c.refresh.clearEveryWord?_eq
  refine ⟨⟨every, hword, htoNat, fun t => ?_⟩, hevery, hbounds, clears_one hevery,
    existsUnique_clears hevery, fun s t hst hs ht hnone => ?_⟩
  · rw [clearsWord?_eq (htoNat ▸ hevery), htoNat]
  · rw [next_clear hevery hst hs ht hnone, Nat.add_sub_cancel_left]
    exact hbounds

/-- A clear as rarely as can be asked for, and ticks of three milliseconds. -/
def rareClears (name : String) : Option String :=
  if name = "OSD_CONSOLE_CLEAR_INTERVAL_SECS" then some "18446744073709551615"
  else if name = "OSD_CONSOLE_TICK_INTERVAL_MS" then some "3"
  else none

def rarelyCleared : Config := { standard with refresh := ⟨3, 18446744073709551615⟩ }

/-- The distance is a third of the largest word, as the time asked for is larger than any word. -/
theorem clears_at_even_distances_rarely :
    load none .absent rareClears = .ok rarelyCleared ∧
    rarelyCleared.refresh.clearEvery = 6148914691236517205 ∧
    ∃! s, (2 ≤ s ∧ s < 2 + rarelyCleared.refresh.clearEvery) ∧
      clears s rarelyCleared.refresh.clearEvery = true := by
  have hload : load none .absent rareClears = .ok rarelyCleared := by rfl
  exact ⟨hload, by decide +kernel, (clears_at_even_distances hload).2.2.2.2.1 2⟩

end Config

end StatusBoard
