import StatusBoard.Config.Load

/-!
What is known of a configuration that has been loaded.
-/

namespace StatusBoard.Config

/-- The limits that a configuration has to keep. -/
structure KeepsLimits (c : Config) : Prop where
  devices : c.console.devices ≠ []
  width : ∀ n, c.console.width = some n → minWidth ≤ n.toNat
  height : ∀ n, c.console.height = some n → minHeight ≤ n.toNat
  tick_ne : c.refresh.tickMs ≠ 0
  tick_le : c.refresh.tickMs.toNat ≤ c.refresh.clearMs
  markers : c.log.warningMarker ≠ "" ∧ c.log.errorMarker ≠ ""
  maxLines : c.log.maxLines ≠ 0

theorem sideFault_eq_none_iff (name : String) (least : Nat) (side : Option UInt16) :
    sideFault name least side = none ↔ ∀ n, side = some n → least ≤ n.toNat := by
  cases side with
  | none => exact ⟨nofun, fun _ => rfl⟩
  | some n => simp [sideFault]

theorem ite_some_eq_none_iff {α : Type} {p : Prop} [Decidable p] (a : α) (o : Option α) :
    (if p then some a else o) = none ↔ ¬ p ∧ o = none := by
  split <;> simp [*]

/-- Nothing is complained about exactly if all limits are kept. -/
theorem complaint_eq_none_iff (c : Config) : c.complaint = none ↔ c.KeepsLimits := by
  simp only [complaint, ite_some_eq_none_iff, Option.or_eq_none_iff, sideFault_eq_none_iff,
    Nat.not_lt, Bool.or_eq_true, decide_eq_true_eq, not_or, and_true]
  constructor
  · rintro ⟨hdevices, hwidth, hheight, htick, hclear, hmarkers, hlines⟩
    exact ⟨hdevices, hwidth, hheight, htick, hclear, hmarkers, hlines⟩
  · rintro ⟨hdevices, hwidth, hheight, htick, hclear, hmarkers, hlines⟩
    exact ⟨hdevices, hwidth, hheight, htick, hclear, hmarkers, hlines⟩

theorem keepsLimits_of_validate {c c' : Config} (h : validate c = .ok c') : c'.KeepsLimits := by
  unfold validate at h
  split at h
  · cases h
  · cases h
    exact (complaint_eq_none_iff c).mp ‹_›

/-- A configuration that has been loaded keeps the limits. -/
theorem keepsLimits_of_load {path : Option String} {f : Source.File}
    {lookup : String → Option String} {c : Config} (h : load path f lookup = .ok c) :
    c.KeepsLimits := by
  unfold load at h
  split at h
  · cases h
  · rename_i c' _
    split at h
    · cases h
    · rename_i hfinish
      cases h
      rw [finish] at hfinish
      cases hover : c'.override lookup with
      | error e =>
          rw [hover] at hfinish
          cases hfinish
      | ok c'' =>
          rw [hover] at hfinish
          exact keepsLimits_of_validate hfinish

end StatusBoard.Config
