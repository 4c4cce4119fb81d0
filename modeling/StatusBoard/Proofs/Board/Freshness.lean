import Mathlib.Logic.Function.Basic
import StatusBoard.Proofs.Board.Fitting
import StatusBoard.Source.Surroundings

/-!
Refreshes that overlap.

A refresh asks the sources one after the other while the board is free for others, and fills the
frame when it has asked them all.  Nothing makes a refresh wait for one that has asked before it, so
of two that overlap the older may come last.  What is asked in turn is shown in turn, and then the
frame does not go back.
-/

namespace StatusBoard

/-- One event comes before another. -/
def Precedes {α : Type} (es : List α) (e e' : α) : Prop := [e, e'].Sublist es

namespace Precedes

variable {α : Type} {es : List α} {e e' d : α}

theorem left_mem (h : Precedes es e e') : e ∈ es := h.mem (by simp)

theorem right_mem (h : Precedes es e e') : e' ∈ es := h.mem (by simp)

theorem of_concat (h : Precedes (es ++ [d]) e e') : Precedes es e e' ∨ e ∈ es ∧ e' = d := by
  obtain ⟨l, r, hsplit, hl, hr⟩ := List.sublist_append_iff.mp h
  cases hr with
  | cons _ hr =>
      rw [List.sublist_nil.mp hr, List.append_nil] at hsplit
      subst hsplit
      exact .inl hl
  | cons_cons _ hr =>
      rw [List.sublist_nil.mp hr] at hsplit
      have hsplit : [e] ++ [e'] = l ++ [d] := hsplit
      obtain ⟨rfl, hlast⟩ := List.append_inj' hsplit rfl
      exact .inr ⟨List.singleton_sublist.mp hl, List.singleton_inj.mp hlast⟩

theorem of_concat_ne (h : Precedes (es ++ [d]) e e') (hd : e' ≠ d) : Precedes es e e' :=
  h.of_concat.resolve_right fun hlast => hd hlast.2

end Precedes

namespace Board

/-- The clock outside does not go back. -/
def ClockIsMonotone (outside : Nat → Source.Surroundings) : Prop :=
  ∀ m n, m ≤ n → (outside m).now ≤ (outside n).now

/-- When a refresh has asked each of its sources. -/
structure Moments where
  release : Nat
  applications : Nat
  addresses : Nat
  clock : Nat

namespace Moments

def toList (m : Moments) : List Nat := [m.release, m.applications, m.addresses, m.clock]

/-- Whatever the first has asked, it has not asked later than the second has asked anything. -/
def NotAfter (m n : Moments) : Prop := ∀ x ∈ m.toList, ∀ y ∈ n.toList, x ≤ y

variable (outside : Nat → Source.Surroundings) (c : Config.Sources)

def readings (m : Moments) : Source.Readings :=
  { release := ((outside m.release).readings c).release
    applications := ((outside m.applications).readings c).applications
    addresses := ((outside m.addresses).readings c).addresses
    now := ((outside m.clock).readings c).now }

def facts (m : Moments) : Frame.Facts := (m.readings outside c).facts c.product

variable {outside}

theorem now_le_now (hclock : ClockIsMonotone outside) {m n : Moments}
    (h : m.NotAfter n) : (m.facts outside c).now ≤ (n.facts outside c).now :=
  hclock _ _ (h m.clock (by simp [toList]) n.clock (by simp [toList]))

end Moments

namespace Refreshes

/-- How far a refresh has come, and when it has asked the sources that it has asked. -/
inductive Course
  | waiting
  | begun
  | released (release : Nat)
  | listed (release applications : Nat)
  | addressed (release applications addresses : Nat)
  | collected (m : Moments)
  | applied (m : Moments)

def Course.moments : Course → List Nat
  | waiting | begun => []
  | released r => [r]
  | listed r a => [r, a]
  | addressed r a d => [r, a, d]
  | collected m | applied m => m.toList

/-- Asking the next source but the clock, which is asked last. -/
def Course.ask? (moment : Nat) : Course → Option Course
  | begun => some (released moment)
  | released r => some (listed r moment)
  | listed r a => some (addressed r a moment)
  | _ => none

theorem Course.of_ask? {moment : Nat} {p q : Course} (h : p.ask? moment = some q) :
    q ≠ .waiting ∧ (∀ n ∈ q.moments, n ∈ p.moments ∨ n = moment) ∧
      (∀ m, p ≠ .collected m) ∧ ∀ m, p ≠ .applied m := by
  rcases p with _ | _ | r | ⟨r, a⟩ | ⟨r, a, d⟩ | m | m <;> cases h <;>
    simp [moments, or_assoc]

/-- What is noted of the refreshes. -/
inductive Mark (κ : Type)
  | begun (k : κ)
  | collected (k : κ) (m : Moments)
  | applied (k : κ) (m : Moments)

variable {ι κ : Type}

def Mark.moments : Mark κ → List Nat
  | begun _ => []
  | collected _ m | applied _ m => m.toList

def Mark.applied? : Mark κ → Option Moments
  | applied _ m => some m
  | _ => none

end Refreshes

open Refreshes in
/-- The board with its loop and threads, and the refreshes that these make. -/
structure Refreshes (ι κ : Type) where
  system : System ι
  /-- The time, as a number of the states that the outside goes through. -/
  moment : Nat
  course : κ → Course
  marks : List (Mark κ)

namespace Refreshes

variable {ι κ : Type}

def start (b : Board) (out : Stream) : Refreshes ι κ := ⟨.initial b out, 0, fun _ => .waiting, []⟩

def go [DecidableEq κ] (s : Refreshes ι κ) (k : κ) (p : Course) : Refreshes ι κ :=
  { s with course := Function.update s.course k p }

def note (s : Refreshes ι κ) (e : Mark κ) : Refreshes ι κ := { s with marks := s.marks ++ [e] }

/-- One step outside, of a refresh, or of the loop or a thread.  These fill the frame only with
what a refresh has collected. -/
inductive Step [DecidableEq ι] [DecidableEq κ] (outside : Nat → Source.Surroundings) (c : Config.Sources) :
    Refreshes ι κ → Refreshes ι κ → Prop
  | pass {s : Refreshes ι κ} : Step outside c s { s with moment := s.moment + 1 }
  | begin {s : Refreshes ι κ} (k : κ) :
      s.course k = .waiting → Step outside c s ((s.go k .begun).note (.begun k))
  | ask {s : Refreshes ι κ} (k : κ) (p : Course) :
      (s.course k).ask? s.moment = some p → Step outside c s (s.go k p)
  | collect {s : Refreshes ι κ} (k : κ) (r a d : Nat) :
      s.course k = .addressed r a d →
      Step outside c s
        ((s.go k (.collected ⟨r, a, d, s.moment⟩)).note (.collected k ⟨r, a, d, s.moment⟩))
  | apply {s : Refreshes ι κ} {t : System ι} (k : κ) (m : Moments) :
      s.course k = .collected m → System.Step s.system t →
      t.history = s.system.history ++ [.facts (m.facts outside c)] →
      Step outside c s ({ s.go k (.applied m) with system := t }.note (.applied k m))
  | other {s : Refreshes ι κ} {t : System ι} :
      System.Step s.system t →
      t.history.filterMap Change.facts? = s.system.history.filterMap Change.facts? →
      Step outside c s { s with system := t }

def Reachable [DecidableEq ι] [DecidableEq κ] (outside : Nat → Source.Surroundings) (c : Config.Sources)
    (b : Board) (out : Stream) (s : Refreshes ι κ) : Prop :=
  Relation.ReflTransGen (Step outside c) (start b out) s

/-! ## What the marks say -/

section

variable {outside : Nat → Source.Surroundings} {c : Config.Sources} {s t : Refreshes ι κ}

/-- A refresh goes on from what is marked of it, no source is asked before a refresh has begun, and
what is shown is what has been marked as applied. -/
structure Orderly (outside : Nat → Source.Surroundings) (c : Config.Sources)
    (s : Refreshes ι κ) : Prop where
  begun : ∀ k, .begun k ∈ s.marks → s.course k ≠ .waiting
  collected : ∀ k m, .collected k m ∈ s.marks → s.course k = .collected m ∨ s.course k = .applied m
  applied : ∀ k m, .applied k m ∈ s.marks → s.course k = .applied m
  asked : ∀ k, ∀ n ∈ (s.course k).moments, n ≤ s.moment
  later : ∀ e k, Precedes s.marks e (.begun k) →
    ∀ x ∈ e.moments, ∀ y ∈ (s.course k).moments, x ≤ y
  kept : ∀ i j m n, Precedes s.marks (.applied i m) (.begun j) →
    ¬Precedes s.marks (.applied j n) (.applied i m)
  shown : s.system.history.filterMap Change.facts? =
    (s.marks.filterMap Mark.applied?).map (Moments.facts outside c)

namespace Orderly

theorem start (b : Board) (out : Stream) : Orderly outside c (start b out : Refreshes ι κ) := by
  constructor
  · rintro k ⟨⟩
  · rintro k m ⟨⟩
  · rintro k m ⟨⟩
  · rintro k n ⟨⟩
  · rintro e k ⟨⟩
  · rintro i j m n ⟨⟩
  · rfl

theorem moments_le (h : Orderly outside c s) {e : Mark κ} (he : e ∈ s.marks) :
    ∀ x ∈ e.moments, x ≤ s.moment := by
  intro x hx
  rcases e with k | ⟨k, m⟩ | ⟨k, m⟩
  · cases hx
  · have hasked := h.asked k x
    rcases h.collected k m he with hk | hk
    · exact hasked (hk ▸ hx)
    · exact hasked (hk ▸ hx)
  · exact h.asked k x (h.applied k m he ▸ hx)

/-- A refresh that goes on keeps what it has asked, and may ask one source now. -/
theorem go [DecidableEq κ] (h : Orderly outside c s) {k : κ} {p : Course} (hwaiting : p ≠ .waiting)
    (hcollected : ∀ m, s.course k = .collected m → p = .applied m)
    (happlied : ∀ m, s.course k ≠ .applied m)
    (hmoments : ∀ n ∈ p.moments, n ∈ (s.course k).moments ∨ n = s.moment) :
    Orderly outside c (s.go k p) := by
  have hself : (s.go k p).course k = p := Function.update_self ..
  have hothers : ∀ j, j ≠ k → (s.go k p).course j = s.course j := fun j hj =>
    Function.update_of_ne hj ..
  constructor
  · intro j hj
    rcases eq_or_ne j k with rfl | hne
    · rwa [hself]
    · rw [hothers j hne]
      exact h.begun j hj
  · intro j m hj
    rcases eq_or_ne j k with rfl | hne
    · rw [hself]
      exact .inr (hcollected m ((h.collected j m hj).resolve_right (happlied m)))
    · rw [hothers j hne]
      exact h.collected j m hj
  · intro j m hj
    rcases eq_or_ne j k with rfl | hne
    · exact absurd (h.applied j m hj) (happlied m)
    · rw [hothers j hne]
      exact h.applied j m hj
  · intro j n hn
    rcases eq_or_ne j k with rfl | hne
    · rw [hself] at hn
      rcases hmoments n hn with hn | rfl
      · exact h.asked j n hn
      · exact Nat.le_refl _
    · rw [hothers j hne] at hn
      exact h.asked j n hn
  · intro e j hbefore x hx y hy
    rcases eq_or_ne j k with rfl | hne
    · rw [hself] at hy
      rcases hmoments y hy with hy | rfl
      · exact h.later e j hbefore x hx y hy
      · exact h.moments_le hbefore.left_mem x hx
    · rw [hothers j hne] at hy
      exact h.later e j hbefore x hx y hy
  · exact h.kept
  · exact h.shown

theorem note_begun (h : Orderly outside c s) {k : κ} (hk : s.course k = .begun) :
    Orderly outside c (s.note (.begun k)) := by
  constructor
  · intro j hj
    rcases List.mem_append.mp hj with hj | hj
    · exact h.begun j hj
    · obtain rfl : j = k := by simpa using hj
      simp [note, hk]
  · intro j m hj
    exact h.collected j m (by simpa [note] using hj)
  · intro j m hj
    exact h.applied j m (by simpa [note] using hj)
  · exact h.asked
  · intro e j hbefore x hx y hy
    rcases hbefore.of_concat with hbefore | ⟨-, hj⟩
    · exact h.later e j hbefore x hx y hy
    · obtain rfl : j = k := by simpa using hj
      have hnone : (s.course j).moments = [] := by rw [hk, Course.moments]
      rw [note, hnone] at hy
      cases hy
  · intro i j m n hbegun hover
    have hearlier : Precedes s.marks (.applied j n) (.applied i m) := hover.of_concat_ne nofun
    rcases hbegun.of_concat with hbegun | ⟨-, hj⟩
    · exact h.kept i j m n hbegun hearlier
    · obtain rfl : j = k := by simpa using hj
      have happlied := h.applied j n hearlier.left_mem
      rw [hk] at happlied
      cases happlied
  · rw [note, List.filterMap_append]
    exact h.shown.trans (congrArg _ (List.append_nil _).symm)

theorem note_collected (h : Orderly outside c s) {k : κ} {m : Moments}
    (hk : s.course k = .collected m) : Orderly outside c (s.note (.collected k m)) := by
  constructor
  · intro j hj
    exact h.begun j (by simpa [note] using hj)
  · intro j n hj
    rcases List.mem_append.mp hj with hj | hj
    · exact h.collected j n hj
    · obtain ⟨rfl, rfl⟩ : j = k ∧ n = m := by simpa using hj
      exact .inl hk
  · intro j n hj
    exact h.applied j n (by simpa [note] using hj)
  · exact h.asked
  · intro e j hbefore
    exact h.later e j (hbefore.of_concat_ne nofun)
  · intro i j m' n hbegun hover
    exact h.kept i j m' n (hbegun.of_concat_ne nofun) (hover.of_concat_ne nofun)
  · rw [note, List.filterMap_append]
    exact h.shown.trans (congrArg _ (List.append_nil _).symm)

theorem note_applied (h : Orderly outside c s) {k : κ} {m : Moments}
    (hk : s.course k = .applied m) (hfresh : ∀ n, .applied k n ∉ s.marks) {u : System ι}
    (hu : u.history = s.system.history ++ [.facts (m.facts outside c)]) :
    Orderly outside c ({ s with system := u }.note (.applied k m)) := by
  constructor
  · intro j hj
    exact h.begun j (by simpa [note] using hj)
  · intro j n hj
    exact h.collected j n (by simpa [note] using hj)
  · intro j n hj
    rcases List.mem_append.mp hj with hj | hj
    · exact h.applied j n hj
    · obtain ⟨rfl, rfl⟩ : j = k ∧ n = m := by simpa using hj
      exact hk
  · exact h.asked
  · intro e j hbefore
    exact h.later e j (hbefore.of_concat_ne nofun)
  · intro i j m' n hbegun hover
    have hearlier : Precedes s.marks (.applied i m') (.begun j) := hbegun.of_concat_ne nofun
    rcases hover.of_concat with hover | ⟨-, hi⟩
    · exact h.kept i j m' n hearlier hover
    · obtain ⟨rfl, rfl⟩ : i = k ∧ m' = m := by simpa using hi
      exact hfresh m' hearlier.left_mem
  · have hshown := h.shown
    simp only [note, hu, List.filterMap_append, hshown, List.map_append]
    rfl

theorem mapSystem (h : Orderly outside c s) {u : System ι}
    (hu : u.history.filterMap Change.facts? = s.system.history.filterMap Change.facts?) :
    Orderly outside c { s with system := u } :=
  { h with shown := hu.trans h.shown }

theorem pass (h : Orderly outside c s) : Orderly outside c { s with moment := s.moment + 1 } :=
  { h with asked := fun k n hn => Nat.le_succ_of_le (h.asked k n hn) }

theorem step [DecidableEq ι] [DecidableEq κ] (h : Orderly outside c s) (hstep : Step outside c s t) :
    Orderly outside c t := by
  cases hstep with
  | pass => exact h.pass
  | begin k hk =>
      have hgone : Orderly outside c (s.go k .begun) := by
        apply h.go
        · nofun
        · simp [hk]
        · simp [hk]
        · rintro n ⟨⟩
      exact hgone.note_begun (Function.update_self ..)
  | ask k p hp =>
      obtain ⟨hwaiting, hmoments, hcollected, happlied⟩ := Course.of_ask? hp
      exact h.go hwaiting (fun m hm => absurd hm (hcollected m)) happlied hmoments
  | collect k r a d hk =>
      have hgone : Orderly outside c (s.go k (.collected ⟨r, a, d, s.moment⟩)) := by
        apply h.go
        · nofun
        · simp [hk]
        · simp [hk]
        · simp [hk, Course.moments, Moments.toList, or_assoc]
      exact hgone.note_collected (Function.update_self ..)
  | apply k m hk _ hu =>
      have hgone : Orderly outside c (s.go k (.applied m)) := by
        apply h.go
        · nofun
        · simp [hk]
        · simp [hk]
        · intro n hn
          rw [hk]
          exact .inl hn
      refine hgone.note_applied (Function.update_self ..) ?_ hu
      intro n hn
      have happlied := h.applied k n hn
      rw [hk] at happlied
      cases happlied
  | other _ hu => exact h.mapSystem hu

end Orderly

variable {b : Board} {out : Stream}

theorem Reachable.orderly [DecidableEq ι] [DecidableEq κ] (h : Reachable outside c b out s) :
    Orderly outside c s := by
  induction h with
  | refl => exact .start b out
  | tail _ hstep ih => exact ih.step hstep

/-- The board, its loop and its threads do what they do without refreshes being looked at. -/
theorem Reachable.system [DecidableEq ι] [DecidableEq κ] (h : Reachable outside c b out s) :
    System.Reachable b out s.system := by
  induction h with
  | refl => exact .refl
  | tail _ hstep ih =>
      cases hstep with
      | apply k m _ hu _ => exact ih.tail hu
      | other hu _ => exact ih.tail hu
      | _ => exact ih

/-! ## Refreshes in turn -/

/-- Of two refreshes that have been applied, the second has begun after the first was applied. -/
def InTurn (es : List (Mark κ)) : Prop :=
  ∀ i j m n, Precedes es (.applied i m) (.applied j n) → Precedes es (.applied i m) (.begun j)

theorem Orderly.notAfter (h : Orderly outside c s) {e : Mark κ} {j : κ} {n : Moments}
    (hbegun : Precedes s.marks e (.begun j)) (hj : .applied j n ∈ s.marks) :
    ∀ x ∈ e.moments, ∀ y ∈ n.toList, x ≤ y := by
  have hlater := h.later e j hbegun
  rwa [h.applied j n hj] at hlater

theorem Orderly.pairwise_notAfter (h : Orderly outside c s) (hturn : InTurn s.marks) :
    (s.marks.filterMap Mark.applied?).Pairwise Moments.NotAfter := by
  rw [List.pairwise_filterMap, List.pairwise_iff_forall_sublist]
  intro e e' hbefore m hm n hn
  rcases e with _ | _ | ⟨i, m'⟩ <;> cases hm
  rcases e' with _ | _ | ⟨j, n'⟩ <;> cases hn
  have hbefore : Precedes s.marks (.applied i m) (.applied j n) := hbefore
  exact h.notAfter (hturn i j m n hbefore) hbefore.right_mem

/-- The clock in the header, at each time that the frame has been filled. -/
def clocks (s : Refreshes ι κ) : List Int :=
  (s.system.history.filterMap Change.facts?).map Frame.Facts.now

theorem Orderly.pairwise_clocks (h : Orderly outside c s) (hturn : InTurn s.marks)
    (hclock : ClockIsMonotone outside) : s.clocks.Pairwise (· ≤ ·) := by
  rw [clocks, h.shown, List.map_map, List.pairwise_map]
  exact (h.pairwise_notAfter hturn).imp fun hmn => Moments.now_le_now c hclock hmn

/-- What a refresh has learnt that was applied before another began is older than what that one
has learnt, source by source and in the clock.  It is not applied over it, only because a refresh is
applied once; so the order of the moments and of the clocks is what this says.  The frame shows what
has been applied last; if refreshes are made in turn, neither what they have asked nor the clock
goes back. -/
theorem refreshes_in_turn [DecidableEq ι] [DecidableEq κ] (h : Reachable outside c b out s)
    (hclock : ClockIsMonotone outside) :
    (∀ i j m n, Precedes s.marks (.applied i m) (.begun j) → .applied j n ∈ s.marks →
      ¬Precedes s.marks (.applied j n) (.applied i m) ∧ m.NotAfter n ∧
        (m.facts outside c).now ≤ (n.facts outside c).now) ∧
    (∀ i j m n, Precedes s.marks (.collected i m) (.begun j) → .applied j n ∈ s.marks →
      m.NotAfter n ∧ (m.facts outside c).now ≤ (n.facts outside c).now) ∧
    s.system.history.filterMap Change.facts? =
      (s.marks.filterMap Mark.applied?).map (Moments.facts outside c) ∧
    (s.system.phase ≠ .refreshing → Fits s.system.loop.board s.system.history) ∧
    (InTurn s.marks → (s.marks.filterMap Mark.applied?).Pairwise Moments.NotAfter ∧
      s.clocks.Pairwise (· ≤ ·)) := by
  have horderly := h.orderly
  refine ⟨?_, ?_, horderly.shown, h.system.fitted.2.fits, ?_⟩
  · intro i j m n hbegun hj
    have hnotAfter : m.NotAfter n := horderly.notAfter hbegun hj
    exact ⟨horderly.kept i j m n hbegun, hnotAfter, Moments.now_le_now c hclock hnotAfter⟩
  · intro i j m n hbegun hj
    have hnotAfter : m.NotAfter n := horderly.notAfter hbegun hj
    exact ⟨hnotAfter, Moments.now_le_now c hclock hnotAfter⟩
  · intro hturn
    exact ⟨horderly.pairwise_notAfter hturn, horderly.pairwise_clocks hturn hclock⟩

end

/-! ## Two refreshes -/

section

variable {outside : Nat → Source.Surroundings} {c : Config.Sources} {s : Refreshes ι κ}
variable [DecidableEq ι] [DecidableEq κ] {b : Board} {out : Stream}

/-- A refresh that asks all its sources before anything else happens. -/
def collect (s : Refreshes ι κ) (k : κ) : Refreshes ι κ :=
  let m : Moments := ⟨s.moment, s.moment, s.moment, s.moment⟩
  ((s.note (.begun k)).note (.collected k m)).go k (.collected m)

theorem Reachable.collect (h : Reachable outside c b out s) {k : κ} (hk : s.course k = .waiting) :
    Reachable outside c b out (s.collect k) := by
  let n := s.moment
  have hself : ∀ (t : Refreshes ι κ) (p : Course), (t.go k p).course k = p := fun _ _ =>
    Function.update_self ..
  let t₀ := (s.go k .begun).note (.begun k)
  have h₀ : Reachable outside c b out t₀ := h.tail (.begin k hk)
  let t₁ := t₀.go k (.released n)
  have h₁ : Reachable outside c b out t₁ :=
    h₀.tail (.ask k (.released n) (congrArg _ (hself s .begun)))
  let t₂ := t₁.go k (.listed n n)
  have h₂ : Reachable outside c b out t₂ :=
    h₁.tail (.ask k (.listed n n) (congrArg _ (hself t₀ (.released n))))
  let t₃ := t₂.go k (.addressed n n n)
  have h₃ : Reachable outside c b out t₃ :=
    h₂.tail (.ask k (.addressed n n n) (congrArg _ (hself t₁ (.listed n n))))
  have h₄ := h₃.tail (.collect k n n n (hself t₂ (.addressed n n n)))
  have hsame : (t₃.go k (.collected ⟨n, n, n, n⟩)).note (.collected k ⟨n, n, n, n⟩) =
      s.collect k := by
    simp [t₃, t₂, t₁, t₀, go, note, Refreshes.collect, n]
  exact hsame ▸ h₄

def pass (s : Refreshes ι κ) : Refreshes ι κ := { s with moment := s.moment + 1 }

def follow (s : Refreshes ι κ) (t : System ι) : Refreshes ι κ := { s with system := t }

/-- A refresh that has collected fills the frame. -/
def fill (s : Refreshes ι κ) (k : κ) (m : Moments) (t : System ι) : Refreshes ι κ :=
  ((s.go k (.applied m)).follow t).note (.applied k m)

theorem Reachable.pass (h : Reachable outside c b out s) : Reachable outside c b out s.pass :=
  h.tail .pass

theorem Reachable.follow (h : Reachable outside c b out s) {t : System ι}
    (ht : System.Step s.system t)
    (hfacts : t.history.filterMap Change.facts? = s.system.history.filterMap Change.facts?) :
    Reachable outside c b out (s.follow t) := h.tail (.other ht hfacts)

theorem Reachable.fill (h : Reachable outside c b out s) {k : κ} {m : Moments}
    (hk : s.course k = .collected m) {t : System ι} (ht : System.Step s.system t)
    (hfacts : t.history = s.system.history ++ [.facts (m.facts outside c)]) :
    Reachable outside c b out (s.fill k m t) := h.tail (.apply k m hk ht hfacts)

end

/-- From each moment to the next a minute passes, and nothing else changes. -/
def minutes (n : Nat) : Source.Surroundings :=
  { file := fun _ => .absent
    lookup := fun _ => none
    addresses := .ok []
    now := 60 * n }

theorem monotone_minutes : ClockIsMonotone minutes := by
  intro m n hmn
  simp only [minutes]
  omega

def momentsOf (n : Nat) : Moments := ⟨n, n, n, n⟩

def factsOf (n : Nat) : Frame.Facts := (minutes n).facts .standard

def wideStart : Refreshes Unit Bool := start System.wideBoard .endless

theorem reachable_wideStart : Reachable minutes .standard System.wideBoard .endless wideStart :=
  .refl

/-- A thread refreshes the board, and once more a minute later. -/
def refreshedInTurn : Refreshes Unit Bool :=
  let s₀ := wideStart.collect false
  let s₁ := s₀.fill false (momentsOf 0)
    ((s₀.system.change (.facts (factsOf 0))).note () (some 0))
  let s₂ := (s₁.follow ((s₁.system.ask 0).note () none)).pass.collect true
  s₂.fill true (momentsOf 1) ((s₂.system.change (.facts (factsOf 1))).note () (some 1))

theorem reachable_refreshedInTurn :
    Reachable minutes .standard System.wideBoard .endless refreshedInTurn := by
  have hcollected := reachable_wideStart.collect (k := false) rfl
  have hfilled := hcollected.fill (k := false) (m := momentsOf 0) rfl
    (.change () (.facts (factsOf 0)) rfl trivial) rfl
  have hasked := hfilled.follow (.ask () 0 rfl) rfl
  exact (hasked.pass.collect (k := true) rfl).fill rfl
    (.change () (.facts (factsOf 1)) rfl trivial) rfl

theorem precedes_refreshedInTurn :
    Precedes refreshedInTurn.marks (.applied false (momentsOf 0)) (.begun true) := by
  change [_, _].Sublist [Mark.begun false, .collected false (momentsOf 0),
    .applied false (momentsOf 0), .begun true, .collected true (momentsOf 1),
    .applied true (momentsOf 1)]
  exact .cons _ (.cons _ (.cons_cons _ (.cons_cons _ (List.nil_sublist _))))

theorem refreshes_in_turn_minutes :
    Reachable minutes .standard System.wideBoard .endless refreshedInTurn ∧
    ClockIsMonotone minutes ∧
    Precedes refreshedInTurn.marks (.applied false (momentsOf 0)) (.begun true) ∧
    .applied true (momentsOf 1) ∈ refreshedInTurn.marks ∧
    ¬Precedes refreshedInTurn.marks (.applied true (momentsOf 1)) (.applied false (momentsOf 0)) ∧
    (momentsOf 0).NotAfter (momentsOf 1) ∧ refreshedInTurn.clocks = [0, 60] := by
  have hlast : .applied true (momentsOf 1) ∈ refreshedInTurn.marks :=
    List.mem_append_right _ (List.mem_singleton.mpr rfl)
  obtain ⟨hover, hnotAfter, -⟩ :=
    (refreshes_in_turn reachable_refreshedInTurn monotone_minutes).1 _ _ _ _
      precedes_refreshedInTurn hlast
  exact ⟨reachable_refreshedInTurn, monotone_minutes, precedes_refreshedInTurn, hlast, hover,
    hnotAfter, rfl⟩

/-- A thread asks its sources and is then held up.  A minute later the loop finds a smaller screen,
refreshes the board and paints it, and the thread fills the frame with what it has learnt. -/
def overlapped : Refreshes Unit Bool :=
  let s₀ := (wideStart.collect false).pass
  let s₁ := s₀.follow (s₀.system.request.go .checking)
  let s₂ := s₁.follow (s₁.system.go .asleep)
  let s₃ := s₂.follow (s₂.system.go (.measuring false))
  let s₄ := (s₃.follow (((s₃.system.change (.resize ⟨30, 8⟩)).report (Loop.resized ⟨30, 8⟩)).go
    .refreshing)).collect true
  let s₅ := s₄.fill true (momentsOf 1)
    ((s₄.system.change (.facts (factsOf 1))).go (.announcing 1))
  let s₆ := s₅.follow ((s₅.system.ask 1).go .painting)
  let s₇ := s₆.follow (s₆.system.paint.go .checking)
  s₇.fill false (momentsOf 0) ((s₇.system.change (.facts (factsOf 0))).note () (some 2))

theorem reachable_overlapped :
    Reachable minutes .standard System.wideBoard .endless overlapped := by
  have hcollected := (reachable_wideStart.collect (k := false) rfl).pass
  have hmeasuring := ((hcollected.follow (.begin rfl) rfl).follow (.sleep rfl rfl) rfl).follow
    (.timeout rfl) rfl
  have hresized := hmeasuring.follow (.takeSize ⟨30, 8⟩ false rfl rfl) rfl
  have hfilled := (hresized.collect (k := true) rfl).fill (k := true) (m := momentsOf 1) rfl
    (.refresh (factsOf 1) rfl) rfl
  have hpainted := (hfilled.follow (.announce 1 rfl) rfl).follow (.paint rfl) rfl
  exact hpainted.fill (k := false) (m := momentsOf 0) rfl
    (.change () (.facts (factsOf 0)) rfl trivial) rfl

/-- The thread had collected before the loop began, and its older facts take the place of those
that the loop has painted: the clock goes back by a minute. -/
theorem clock_goes_back :
    Reachable minutes .standard System.wideBoard .endless overlapped ∧
    ClockIsMonotone minutes ∧
    Precedes overlapped.marks (.collected false (momentsOf 0)) (.begun true) ∧
    Precedes overlapped.marks (.applied true (momentsOf 1)) (.applied false (momentsOf 0)) ∧
    overlapped.system.attempts.map Attempt.count = [2] ∧ overlapped.clocks = [60, 0] ∧
    overlapped.system.loop.board.frame = Frame.empty.rebuild (factsOf 0) 30 := by
  refine ⟨reachable_overlapped, monotone_minutes, ?_, ?_, rfl, rfl, ?_⟩
  · change [_, _].Sublist [Mark.begun false, .collected false (momentsOf 0), .begun true,
      .collected true (momentsOf 1), .applied true (momentsOf 1), .applied false (momentsOf 0)]
    exact .cons _ (.cons_cons _ (.cons_cons _ (List.nil_sublist _)))
  · change [_, _].Sublist [Mark.begun false, .collected false (momentsOf 0), .begun true,
      .collected true (momentsOf 1), .applied true (momentsOf 1), .applied false (momentsOf 0)]
    exact .cons _ (.cons _ (.cons _ (.cons _ (.cons_cons _ (.cons_cons _ (List.nil_sublist _))))))
  · have hsize : overlapped.system.loop.board.screen.size = ⟨30, 8⟩ := by decide +kernel
    rw [reachable_overlapped.system.fitted.2.fits nofun (factsOf 0) rfl, hsize]

end Refreshes

end Board

end StatusBoard
