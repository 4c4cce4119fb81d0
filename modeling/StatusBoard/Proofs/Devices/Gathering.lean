import StatusBoard.Devices.Input
import StatusBoard.Proofs.Shares
import Mathlib.Data.Fintype.Basic
import Mathlib.Logic.Relation

/-!
Input gathered from several devices.

Each device has a reader, which takes a chunk from its device and then sends it, in two steps;
between any two steps any other reader, or the one who reads the queue, may have its turn.  A call
that has to wait changes nothing while it waits, so it is one step, taken when it ends.

A `Gathering` keeps what has arrived, what has been sent and what has been returned; no step looks
at these.
-/

namespace StatusBoard.Devices

/-! ## One call -/

namespace Input

variable {i : Input} {space : Nat}

/-- What has arrived in the queue and has not been returned. -/
def waiting (i : Input) : List UInt8 := i.pending ++ i.queue.flatten

/-- Reading moves bytes from the front of what waits to the caller, or it finds that there are
none. -/
theorem read_cases (i : Input) (space : Nat) :
    (∃ bytes done, (i.read space).2 = .ok bytes ∧ bytes ++ (i.read space).1.waiting = i.waiting ∧
      i.queue = done ++ (i.read space).1.queue ∧ (i.read space).1.isOpen = i.isOpen) ∨
    (i.read space = (i, .error .yet) ∧ i.waiting = [] ∧ i.isOpen = true) := by
  obtain ⟨pending, queue, isOpen⟩ := i
  cases pending with
  | cons b pending =>
      refine .inl ⟨(b :: pending).take space, [], rfl, ?_, rfl, rfl⟩
      change (b :: pending).take space ++ ((b :: pending).drop space ++ queue.flatten) = _
      rw [← List.append_assoc, List.take_append_drop]
      rfl
  | nil =>
      cases queue with
      | cons c rest =>
          refine .inl ⟨c.take space, [c], rfl, ?_, rfl, rfl⟩
          change c.take space ++ (c.drop space ++ rest.flatten) = _
          rw [← List.append_assoc, List.take_append_drop]
          rfl
      | nil =>
          cases isOpen with
          | true => exact .inr ⟨rfl, rfl, rfl⟩
          | false => exact .inl ⟨[], [], rfl, rfl, rfl, rfl⟩

/-- Nothing is read into some space only if nothing waits and nothing more can come. -/
theorem read_eq_nil_iff (hqueue : ∀ c ∈ i.queue, c ≠ []) (hspace : 0 < space) :
    (i.read space).2 = .ok [] ↔ i.waiting = [] ∧ i.isOpen = false := by
  obtain ⟨pending, queue, isOpen⟩ := i
  have htake : ∀ c : List UInt8, c ≠ [] → c.take space ≠ [] := by
    intro c hc hnil
    rcases List.take_eq_nil_iff.mp hnil with hzero | hc'
    · omega
    · exact hc hc'
  cases pending with
  | cons b pending =>
      constructor
      · intro h
        exact absurd (Except.ok.inj h) (htake _ (List.cons_ne_nil b pending))
      · rintro ⟨h, -⟩
        cases h
  | nil =>
      cases queue with
      | cons c rest =>
          have hc : c ≠ [] := hqueue c List.mem_cons_self
          constructor
          · intro h
            exact absurd (Except.ok.inj h) (htake c hc)
          · rintro ⟨h, -⟩
            change c ++ rest.flatten = [] at h
            exact absurd (List.append_eq_nil_iff.mp h).1 hc
      | nil => cases isOpen <;> simp [read, receive, waiting]

end Input

/-! ## Readers -/

structure Reader where
  /-- All that has arrived at the device. -/
  arrived : List UInt8
  /-- What has arrived and has not been read. -/
  unread : List UInt8
  /-- The chunks read so far, oldest first. -/
  taken : List (List UInt8)
  /-- The chunk that has been read and not sent yet. -/
  held : Option (List UInt8)
  hasEnded : Bool

namespace Reader

def start (bytes : List UInt8) : Reader := ⟨bytes, bytes, [], none, false⟩

def arrive (r : Reader) (bytes : List UInt8) : Reader :=
  { r with arrived := r.arrived ++ bytes, unread := r.unread ++ bytes }

def take (r : Reader) (n : Nat) : Reader :=
  { r with
    unread := r.unread.drop n
    taken := r.taken ++ [r.unread.take n]
    held := some (r.unread.take n) }

def release (r : Reader) : Reader := { r with held := none }

def finish (r : Reader) : Reader := { r with hasEnded := true }

/-- Whether the reader is about to look for input. -/
def IsIdle (r : Reader) : Prop := r.hasEnded = false ∧ r.held = none

/-- What is true of each reader on its own. -/
structure IsSound (r : Reader) : Prop where
  arrived : r.taken.flatten ++ r.unread = r.arrived
  taken : ∀ c ∈ r.taken, c ≠ [] ∧ c.length ≤ chunkSize
  held : r.hasEnded = true → r.held = none

variable {r : Reader}

theorem isSound_start (bytes : List UInt8) : (start bytes).IsSound where
  arrived := rfl
  taken := fun _ hc => by cases hc
  held := fun h => by cases h

theorem IsSound.arrive (h : r.IsSound) (bytes : List UInt8) : (r.arrive bytes).IsSound where
  arrived := by rw [Reader.arrive, ← List.append_assoc, h.arrived]
  taken := h.taken
  held := h.held

theorem IsSound.take (h : r.IsSound) (hidle : r.IsIdle) (hne : r.unread ≠ []) {n : Nat}
    (hpos : 0 < n) (hsize : n ≤ chunkSize) : (r.take n).IsSound := by
  refine ⟨?_, ?_, ?_⟩
  · rw [Reader.take, List.flatten_append, List.flatten_singleton, List.append_assoc,
      List.take_append_drop, h.arrived]
  · intro c hc
    rcases List.mem_append.mp hc with hc | hc
    · exact h.taken c hc
    · rw [List.mem_singleton.mp hc, List.length_take]
      refine ⟨?_, by omega⟩
      intro hnil
      rcases List.take_eq_nil_iff.mp hnil with hzero | hnil
      · omega
      · exact hne hnil
  · intro hended
    have hrunning : r.hasEnded = false := hidle.1
    rw [show (r.take n).hasEnded = r.hasEnded from rfl, hrunning] at hended
    cases hended

theorem IsSound.release (h : r.IsSound) : r.release.IsSound where
  arrived := h.arrived
  taken := h.taken
  held := fun _ => rfl

theorem IsSound.finish (h : r.IsSound) (hidle : r.IsIdle) : r.finish.IsSound where
  arrived := h.arrived
  taken := h.taken
  held := fun _ => hidle.2

end Reader

/-! ## Steps -/

structure Gathering (ι : Type) where
  input : Input
  readers : ι → Reader
  /-- The chunks sent so far by all readers, oldest first. -/
  sent : List (ι × List UInt8)
  returned : List UInt8

namespace Gathering

variable {ι : Type} [Fintype ι] [DecidableEq ι]

/-- Whether a reader may still send something. -/
def anyRuns (readers : ι → Reader) : Bool := decide (∃ i, (readers i).hasEnded = false)

omit [DecidableEq ι] in
theorem anyRuns_eq_false_iff {readers : ι → Reader} :
    anyRuns readers = false ↔ ∀ i, (readers i).hasEnded = true := by
  simp [anyRuns]

theorem anyRuns_update {readers : ι → Reader} {i : ι} {r : Reader}
    (h : r.hasEnded = (readers i).hasEnded) :
    anyRuns (Function.update readers i r) = anyRuns readers := by
  rw [anyRuns, anyRuns, decide_eq_decide]
  apply exists_congr
  intro j
  by_cases hj : j = i
  · rw [hj, Function.update_self, h]
  · rw [Function.update_of_ne hj]

/-- Devices with some input each, and no reader has looked at it. -/
def start (bytes : ι → List UInt8) : Gathering ι :=
  ⟨⟨[], [], anyRuns fun i => Reader.start (bytes i)⟩, fun i => .start (bytes i), [], []⟩

def setReader (s : Gathering ι) (i : ι) (r : Reader) : Gathering ι :=
  { s with readers := Function.update s.readers i r }

def send (s : Gathering ι) (i : ι) (c : List UInt8) : Gathering ι :=
  { s.setReader i (s.readers i).release with
    input := s.input.push [c]
    sent := s.sent ++ [(i, c)] }

/-- A reader ends; with the last one the queue is closed. -/
def finish (s : Gathering ι) (i : ι) : Gathering ι :=
  let s := s.setReader i (s.readers i).finish
  { s with input.isOpen := anyRuns s.readers }

/-- A call ends, and what it has read is returned. -/
def call (s : Gathering ι) (space : Nat) : Gathering ι :=
  { s with
    input := (s.input.read space).1
    returned := s.returned ++ (s.input.read space).2.toOption.getD [] }

/-- One step of a device, of its reader, or of the one who reads the queue.  A reader ends when
its device has no more, when reading fails, or when it is told to stop. -/
inductive Step : Gathering ι → Gathering ι → Prop
  | arrive {s : Gathering ι} (i : ι) (bytes : List UInt8) :
      Step s (s.setReader i ((s.readers i).arrive bytes))
  | take {s : Gathering ι} (i : ι) (n : Nat) :
      (s.readers i).IsIdle → (s.readers i).unread ≠ [] → 0 < n → n ≤ chunkSize →
      Step s (s.setReader i ((s.readers i).take n))
  | send {s : Gathering ι} (i : ι) (c : List UInt8) :
      (s.readers i).held = some c → Step s (s.send i c)
  | finish {s : Gathering ι} (i : ι) : (s.readers i).IsIdle → Step s (s.finish i)
  | answer {s : Gathering ι} (space : Nat) (bytes : List UInt8) :
      (s.input.read space).2 = .ok bytes → Step s (s.call space)
  | timeOut {s : Gathering ι} (space : Nat) :
      (s.input.read space).2 = .error .yet → Step s (s.call space)

def Reachable (bytes : ι → List UInt8) (s : Gathering ι) : Prop :=
  Relation.ReflTransGen Step (start bytes) s

open Relation (ReflTransGen)

section

variable {bytes : ι → List UInt8} {s t : Gathering ι}

omit [Fintype ι] in
@[simp] theorem readers_setReader (s : Gathering ι) (i : ι) (r : Reader) :
    (s.setReader i r).readers i = r := Function.update_self ..

omit [Fintype ι] in
@[simp] theorem readers_send (s : Gathering ι) (i : ι) (c : List UInt8) :
    (s.send i c).readers i = (s.readers i).release := Function.update_self ..

theorem exists_steps_take {i : ι} (hidle : (s.readers i).IsIdle)
    (hne : (s.readers i).unread ≠ []) :
    ∃ t, ReflTransGen Step s t ∧ t.input = s.input.push [(s.readers i).unread.take chunkSize] ∧
      (t.readers i).IsIdle ∧ (t.readers i).unread = (s.readers i).unread.drop chunkSize := by
  let taken := s.setReader i ((s.readers i).take chunkSize)
  let sent := taken.send i ((s.readers i).unread.take chunkSize)
  have hreader : taken.readers i = (s.readers i).take chunkSize := readers_setReader ..
  have htake : Step s taken := .take i chunkSize hidle hne (by decide) (Nat.le_refl _)
  have hsend : Step taken sent := .send i _ (by rw [hreader]; rfl)
  have hlast : sent.readers i = ((s.readers i).take chunkSize).release := by
    rw [readers_send, hreader]
  refine ⟨sent, (ReflTransGen.single htake).tail hsend, rfl, ?_, ?_⟩
  · rw [hlast]
    exact ⟨hidle.1, rfl⟩
  · rw [hlast]
    rfl

/-- What has arrived at a device can reach the queue at once, in full chunks and a last one. -/
theorem exists_steps_bring {i : ι} (hidle : (s.readers i).IsIdle) :
    ∃ t, ReflTransGen Step s t ∧ t.input = s.input.push (chunks (s.readers i).unread) ∧
      (t.readers i).IsIdle ∧ (t.readers i).unread = [] := by
  generalize hunread : (s.readers i).unread = unread
  induction unread using chunks.induct generalizing s with
  | case1 =>
      refine ⟨s, .refl, ?_, hidle, hunread⟩
      rw [chunks, dif_pos rfl, Input.push, List.append_nil]
  | case2 unread hne ih =>
      obtain ⟨t, hfirst, hinput, hidle', hrest⟩ := exists_steps_take hidle (hunread ▸ hne)
      rw [hunread] at hinput hrest
      obtain ⟨u, hsteps, hinput', hlast⟩ := ih hidle' hrest
      refine ⟨u, hfirst.trans hsteps, ?_, hlast⟩
      rw [hinput', hinput, Input.push, Input.push, Input.push, chunks.eq_def unread, dif_neg hne,
        List.append_assoc, List.singleton_append]

end

/-! ## What is kept -/

/-- What waits follows what has been returned, and the queue holds the chunks sent last. -/
structure Keeps (s : Gathering ι) : Prop where
  order : s.returned ++ s.input.waiting = s.sent.flatMap Prod.snd
  queue : ∃ earlier, s.sent.map Prod.snd = earlier ++ s.input.queue
  shares : ∀ i, shareOf i s.sent ++ (s.readers i).held.toList = (s.readers i).taken
  sound : ∀ i, (s.readers i).IsSound
  isOpen : s.input.isOpen = anyRuns s.readers

section

variable {bytes : ι → List UInt8} {s t : Gathering ι}

theorem keeps_start : Keeps (start bytes) where
  order := rfl
  queue := ⟨[], rfl⟩
  shares := fun _ => rfl
  sound := fun i => Reader.isSound_start (bytes i)
  isOpen := rfl

omit [Fintype ι] in
theorem sound_update {readers : ι → Reader} (h : ∀ i, (readers i).IsSound) {i : ι}
    {r : Reader} (hr : r.IsSound) : ∀ j, (Function.update readers i r j).IsSound :=
  (Function.forall_update_iff readers fun _ r => r.IsSound).mpr ⟨hr, fun j _ => h j⟩

/-- A step of one reader that sends nothing and does not end. -/
theorem Keeps.setReader (h : Keeps s) {i : ι} {r : Reader} (hr : r.IsSound)
    (hended : r.hasEnded = (s.readers i).hasEnded)
    (hshare : shareOf i s.sent ++ r.held.toList = r.taken) : Keeps (s.setReader i r) := by
  have hreaders : (s.setReader i r).readers = Function.update s.readers i r := rfl
  refine ⟨h.order, h.queue, ?_, ?_, ?_⟩
  · rw [hreaders]
    exact (Function.forall_update_iff s.readers fun j r =>
      shareOf j s.sent ++ r.held.toList = r.taken).mpr ⟨hshare, fun j _ => h.shares j⟩
  · exact sound_update h.sound hr
  · rw [hreaders]
    exact h.isOpen.trans (anyRuns_update hended).symm

theorem Keeps.arrive (h : Keeps s) (i : ι) (bytes : List UInt8) :
    Keeps (s.setReader i ((s.readers i).arrive bytes)) :=
  h.setReader ((h.sound i).arrive bytes) rfl (h.shares i)

theorem Keeps.take (h : Keeps s) {i : ι} {n : Nat} (hidle : (s.readers i).IsIdle)
    (hne : (s.readers i).unread ≠ []) (hpos : 0 < n) (hsize : n ≤ chunkSize) :
    Keeps (s.setReader i ((s.readers i).take n)) := by
  have hshare := h.shares i
  rw [hidle.2, Option.toList_none, List.append_nil] at hshare
  refine h.setReader ((h.sound i).take hidle hne hpos hsize) rfl ?_
  rw [hshare]
  rfl

theorem Keeps.send (h : Keeps s) {i : ι} {c : List UInt8} (hheld : (s.readers i).held = some c) :
    Keeps (s.send i c) := by
  have hreaders : (s.send i c).readers = Function.update s.readers i (s.readers i).release := rfl
  have hsent : (s.send i c).sent = s.sent ++ [(i, c)] := rfl
  have hqueue : (s.send i c).input.queue = s.input.queue ++ [c] := rfl
  have hwaiting : (s.send i c).input.waiting = s.input.waiting ++ c := by
    rw [Input.waiting, hqueue, List.flatten_append, List.flatten_singleton, ← List.append_assoc]
    rfl
  obtain ⟨earlier, hearlier⟩ := h.queue
  refine ⟨?_, ⟨earlier, ?_⟩, ?_, ?_, ?_⟩
  · rw [hwaiting, hsent, List.flatMap_append, List.flatMap_singleton, ← h.order,
      ← List.append_assoc]
    rfl
  · rw [hsent, hqueue, List.map_append, hearlier, List.append_assoc]
    rfl
  · -- what a reader holds is a queue of at most one chunk
    intro j
    have hrest : ((s.send i c).readers j).held.toList =
        Function.update (fun j => (s.readers j).held.toList) i [] j := by
      rw [hreaders]
      exact Function.apply_update (fun _ r => Reader.held r |>.toList) s.readers i _ j
    have hhead : (s.readers i).held.toList = [c] := by
      rw [hheld]
      rfl
    have htaken : ((s.send i c).readers j).taken = (s.readers j).taken := by
      by_cases hj : j = i
      · rw [hj, readers_send]
        rfl
      · rw [hreaders, Function.update_of_ne hj]
    rw [hsent, hrest, htaken,
      shareOf_concat_append (q := fun j => (s.readers j).held.toList) hhead, h.shares j]
  · exact sound_update h.sound (h.sound i).release
  · have hruns : anyRuns (Function.update s.readers i (s.readers i).release) =
        anyRuns s.readers := anyRuns_update rfl
    rw [hreaders, hruns]
    exact h.isOpen

theorem Keeps.finish (h : Keeps s) {i : ι} (hidle : (s.readers i).IsIdle) :
    Keeps (s.finish i) := by
  have hreaders : (s.finish i).readers = Function.update s.readers i (s.readers i).finish := rfl
  refine ⟨h.order, h.queue, ?_, sound_update h.sound ((h.sound i).finish hidle), rfl⟩
  rw [hreaders]
  exact (Function.forall_update_iff s.readers fun j r =>
    shareOf j s.sent ++ r.held.toList = r.taken).mpr ⟨h.shares i, fun j _ => h.shares j⟩

omit [Fintype ι] [DecidableEq ι] in
theorem call_of_yet {space : Nat} (h : (s.input.read space).2 = .error .yet) :
    s.call space = s := by
  rcases s.input.read_cases space with ⟨bytes, -, hread, -⟩ | ⟨hread, -⟩
  · rw [h] at hread
    cases hread
  · rw [call, hread]
    change { s with returned := s.returned ++ [] } = s
    rw [List.append_nil]

theorem Keeps.call (h : Keeps s) (space : Nat) : Keeps (s.call space) := by
  rcases s.input.read_cases space with ⟨bytes, done, hread, hwaiting, hqueue, hopen⟩ | ⟨hread, -⟩
  · obtain ⟨earlier, hearlier⟩ := h.queue
    refine ⟨?_, ⟨earlier ++ done, ?_⟩, h.shares, h.sound, hopen.trans h.isOpen⟩
    · rw [Gathering.call, hread]
      change s.returned ++ bytes ++ (s.input.read space).1.waiting = _
      rw [List.append_assoc, hwaiting, h.order]
    · rw [List.append_assoc]
      exact hearlier.trans (congrArg (earlier ++ ·) hqueue)
  · rw [call_of_yet (by rw [hread])]
    exact h

theorem Keeps.step (h : Keeps s) (hstep : Step s t) : Keeps t := by
  cases hstep with
  | arrive i bytes => exact h.arrive i bytes
  | take i n hidle hne hpos hsize => exact h.take hidle hne hpos hsize
  | send i c hheld => exact h.send hheld
  | finish i hidle => exact h.finish hidle
  | answer space _ _ => exact h.call space
  | timeOut space _ => exact h.call space

theorem keeps_of_reachable (h : Reachable bytes s) : Keeps s := by
  induction h with
  | refl => exact keeps_start
  | tail _ hstep ih => exact ih.step hstep

theorem Keeps.taken_eq (h : Keeps s) {i : ι} (hended : (s.readers i).hasEnded = true) :
    shareOf i s.sent = (s.readers i).taken := by
  rw [← h.shares i, (h.sound i).held hended, Option.toList_none, List.append_nil]

theorem Keeps.ne_nil_of_mem_queue (h : Keeps s) {c : List UInt8} (hc : c ∈ s.input.queue) :
    c ≠ [] := by
  obtain ⟨earlier, hearlier⟩ := h.queue
  have hmem : c ∈ s.sent.map Prod.snd := hearlier ▸ List.mem_append_right _ hc
  obtain ⟨⟨i, c⟩, hsent, rfl⟩ := List.mem_map.mp hmem
  have hshare : c ∈ shareOf i s.sent :=
    List.mem_map_of_mem (List.mem_filter.mpr ⟨hsent, decide_eq_true rfl⟩)
  refine ((h.sound i).taken c ?_).1
  rw [← h.shares i]
  exact List.mem_append_left _ hshare

/-- However readers and calls interleave, what has been returned and what waits are the chunks
that have been sent, one after the other, and those of each reader are what it has read of its
device, in order.  Only when all has been returned and no reader is left does a call return
nothing. -/
theorem input_is_kept (h : Reachable bytes s) :
    s.returned ++ s.input.pending ++ s.input.queue.flatten = s.sent.flatMap Prod.snd ∧
      (∃ earlier, s.sent.map Prod.snd = earlier ++ s.input.queue) ∧
      (∀ i, shareOf i s.sent ++ (s.readers i).held.toList = (s.readers i).taken ∧
        (s.readers i).IsSound) ∧
      (∀ space, (s.input.read space).2 = .error .yet → s.call space = s) ∧
      ∀ space, 0 < space → ((s.input.read space).2 = .ok [] ↔
        (∀ i, (s.readers i).hasEnded = true ∧ shareOf i s.sent = (s.readers i).taken) ∧
          s.returned = s.sent.flatMap Prod.snd) := by
  have hkeeps := keeps_of_reachable h
  refine ⟨?_, hkeeps.queue, fun i => ⟨hkeeps.shares i, hkeeps.sound i⟩,
    fun _ => call_of_yet, ?_⟩
  · rw [List.append_assoc]
    exact hkeeps.order
  · intro space hspace
    rw [Input.read_eq_nil_iff (fun c hc => hkeeps.ne_nil_of_mem_queue hc) hspace, hkeeps.isOpen,
      anyRuns_eq_false_iff, ← hkeeps.order, List.self_eq_append_right, and_comm]
    apply and_congr_left
    intro _
    exact forall_congr' fun i => ⟨fun hended => ⟨hended, hkeeps.taken_eq hended⟩, And.left⟩

end

/-! Two devices.  The chunk of the first waits behind that of the second, and is more than the
second call has space for. -/

def twoDevices (isFirst : Bool) : List UInt8 := if isFirst then [1, 2, 3] else [9]

def crossed : Gathering Bool :=
  let s := start twoDevices
  let s := s.setReader true ((s.readers true).take 2)
  let s := s.setReader false ((s.readers false).take 256)
  (((s.send false [9]).finish false).send true [1, 2] |>.call 1).call 1

theorem crossed_is_kept :
    crossed.returned = [9, 1] ∧ crossed.input.pending = [2] ∧
      crossed.returned ++ crossed.input.pending ++ crossed.input.queue.flatten = [9, 1, 2] ∧
      shareOf true crossed.sent ++ (crossed.readers true).held.toList = [[1, 2]] ∧
      (crossed.input.read 5).2 ≠ .ok [] := by
  have hreachable : Reachable twoDevices crossed := by
    have htrue := Step.take (s := start twoDevices) true 2 ⟨rfl, rfl⟩ (by decide) (by decide)
      (by decide)
    refine ((((((Relation.ReflTransGen.single htrue).tail
      (.take false 256 ⟨rfl, rfl⟩ (by decide) (by decide) (by decide))).tail
      (.send false [9] rfl)).tail (.finish false ⟨rfl, rfl⟩)).tail (.send true [1, 2] rfl)).tail
      (.answer 1 [9] rfl)).tail (.answer 1 [1] rfl)
  obtain ⟨horder, -, hshares, -, hnothing⟩ := input_is_kept hreachable
  refine ⟨rfl, rfl, horder, (hshares true).1, ?_⟩
  rw [ne_eq, hnothing 5 (by decide)]
  rintro ⟨hended, -⟩
  have hrunning : (crossed.readers true).hasEnded = false := rfl
  rw [(hended true).1] at hrunning
  cases hrunning

end Gathering

end StatusBoard.Devices
