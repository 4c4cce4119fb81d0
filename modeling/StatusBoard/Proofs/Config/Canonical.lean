import StatusBoard.Config.Load
import StatusBoard.Config.Render
import StatusBoard.Proofs.Json.Reading

/-!
The text of which the fingerprint of a configuration is taken.

It can be read back, so two configurations have the same text only if they say the same in all
sections.  Paths count as they are written there: two of them may be the same path and still not
have the same text.
-/

namespace StatusBoard.Config

/-! ## Members -/

theorem isPrintable_lengthJson (n : Option UInt16) : (lengthJson n).IsPrintable := by
  cases n with
  | none => exact Json.isPrintable_null
  | some n => exact Json.isPrintable_ofNat n.toNat

theorem isPrintable_toJson (c : Config) : c.toJson.IsPrintable := by
  refine Json.isPrintable_ofMembers ?_
  simp only [List.forall_mem_cons, List.not_mem_nil, false_imp_iff, implies_true, and_true]
  refine ⟨?_, ?_, ?_, ?_⟩
  all_goals
    refine Json.isPrintable_ofMembers ?_
    simp only [List.forall_mem_cons, List.not_mem_nil, false_imp_iff, implies_true, and_true,
      Json.isPrintable_ofTexts, isPrintable_lengthJson, Json.isPrintable_ofText,
      Json.isPrintable_ofNat, Json.isPrintable_bool]

theorem lengthJson_inj {m n : Option UInt16} : lengthJson m = lengthJson n ↔ m = n := by
  refine ⟨fun h => ?_, fun h => h ▸ rfl⟩
  cases m with
  | none =>
      cases n with
      | none => rfl
      | some n => cases h
  | some m =>
      cases n with
      | none => cases h
      | some n => exact congrArg some (UInt16.toNat_inj.mp (Json.ofNat_inj.mp h))

theorem toJson_eq_iff (a b : Config) :
    a.toJson = b.toJson ↔ a.console = b.console ∧ a.refresh = b.refresh ∧ a.sources = b.sources ∧
      a.log = b.log := by
  obtain ⟨⟨_, _, _, _, _⟩, ⟨_, _⟩, ⟨_, _, _⟩, ⟨_, _, _, _, _⟩, _⟩ := a
  obtain ⟨⟨_, _, _, _, _⟩, ⟨_, _⟩, ⟨_, _, _⟩, ⟨_, _, _, _, _⟩, _⟩ := b
  simp only [toJson, Json.ofMembers, List.map_cons, List.map_nil, Json.object.injEq,
    List.cons.injEq, Prod.mk.injEq, true_and, and_true, Json.bool.injEq, Json.ofTexts_inj,
    Json.ofText_inj, Json.ofNat_inj, lengthJson_inj, UInt64.toNat_inj, Console.mk.injEq,
    Refresh.mk.injEq, Sources.mk.injEq, Logging.mk.injEq]

theorem canonical_inj {a b : Config} : a.canonical = b.canonical ↔ a.toJson = b.toJson :=
  Json.compact_inj (isPrintable_toJson a) (isPrintable_toJson b)

/-! ## Equal paths -/

/-- The paths of a configuration as they are written. -/
def writtenPaths (c : Config) : List String × String × String × String :=
  (c.console.devices, c.console.primary, c.sources.releaseFile, c.sources.stateFile)

/-- Sections are equal as they are written if they say the same and their paths are written the
same. -/
theorem sections_eq_iff (a b : Config) :
    (a.console = b.console ∧ a.refresh = b.refresh ∧ a.sources = b.sources ∧ a.log = b.log) ↔
      a.sameSections b = true ∧ a.writtenPaths = b.writtenPaths := by
  constructor
  · rintro ⟨hconsole, hrefresh, hsources, hlog⟩
    rw [sameSections, writtenPaths, writtenPaths, hconsole, hrefresh, hsources, hlog]
    simp [Console.same, Sources.same, Path.allSame]
  · obtain ⟨⟨_, _, _, _, _⟩, _, ⟨_, _, _⟩, _, _⟩ := a
    obtain ⟨⟨_, _, _, _, _⟩, _, ⟨_, _, _⟩, _, _⟩ := b
    simp only [sameSections, writtenPaths, Console.same, Sources.same, Bool.and_eq_true,
      decide_eq_true_eq, Prod.mk.injEq, Console.mk.injEq, Sources.mk.injEq]
    grind

/-- The text of which the fingerprint is taken is the same exactly if all sections are the same as
they are written: if they say the same, and each path is written the same.  Where a configuration
comes from has no part in it. -/
theorem canonical_eq_iff (a b : Config) :
    (a.canonical = b.canonical ↔
      a.console = b.console ∧ a.refresh = b.refresh ∧ a.sources = b.sources ∧ a.log = b.log) ∧
    (a.canonical = b.canonical ↔ a.sameSections b = true ∧ a.writtenPaths = b.writtenPaths) ∧
    ∀ path, { a with path := path }.canonical = a.canonical := by
  have hsections := canonical_inj.trans (toJson_eq_iff a b)
  exact ⟨hsections, hsections.trans (sections_eq_iff a b), fun _ => rfl⟩

/-- A primary console from the environment, with a slash too many. -/
def doubledSlash (name : String) : Option String :=
  if name = "OSD_CONSOLE_PRIMARY" then some "/dev//console" else none

def slashed : Config :=
  { standard with console := { Console.standard with primary := "/dev//console" } }

/-- Two configurations that are loaded and say the same, and have different texts. -/
theorem canonical_differs_slashed :
    load none .absent (fun _ => none) = .ok standard ∧
    load none .absent doubledSlash = .ok slashed ∧
    standard.sameSections slashed = true ∧ standard.canonical ≠ slashed.canonical := by
  refine ⟨by rfl, by rfl, by decide +kernel, fun h => ?_⟩
  have hconsole := ((toJson_eq_iff _ _).mp (canonical_inj.mp h)).1
  exact absurd (congrArg Console.primary hconsole) (by decide)

end StatusBoard.Config
