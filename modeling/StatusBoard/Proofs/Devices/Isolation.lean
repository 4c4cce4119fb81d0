import StatusBoard.Devices.Consoles
import StatusBoard.Proofs.Devices.Wall
import Mathlib.Data.List.Forall2
import Mathlib.Data.List.Induction
import Mathlib.Data.List.TakeDrop

/-!
A device that fails does not disturb the others.

Each chunk is offered to every open device, through whatever handle it is written, and what a
device takes of it depends on the room in this device alone.  Writing fails only if no device takes
the chunk, and always once the consoles have been closed.
-/

namespace StatusBoard

open Terminal (Chunk)

/-! ## One chunk -/

/-- What is taken of bytes for which there may not be enough room. -/
def Stream.takenPart (offered : List UInt8 × Option Nat) : List UInt8 :=
  match offered.2 with
  | none => offered.1
  | some n => offered.1.take n

theorem Stream.takenPart_prefix (offered : List UInt8 × Option Nat) :
    takenPart offered <+: offered.1 := by
  obtain ⟨bytes, _ | n⟩ := offered
  · exact List.prefix_rfl
  · exact List.take_prefix n bytes

theorem Stream.taken_write (d : Stream) (bytes : List UInt8) :
    (d.write bytes).1.taken = d.taken ++ takenPart (bytes, d.room) := by
  unfold write
  cases hroom : d.room <;> rfl

theorem Stream.takenPart_eq_iff (bytes : List UInt8) (room : Option Nat) :
    takenPart (bytes, room) = bytes ↔ room.all (bytes.length ≤ ·) = true := by
  cases room with
  | none => simp [takenPart]
  | some n =>
      rw [Option.all_some, decide_eq_true_eq]
      exact List.take_eq_self_iff bytes

theorem Stream.write_eq_ok_iff (d : Stream) (bytes : List UInt8) :
    (d.write bytes).2 = .ok () ↔ d.room.all (bytes.length ≤ ·) = true := by
  unfold write
  cases hroom : d.room with
  | none => simp
  | some n => simp

namespace Terminal.Chunk

/-- What a device sees of a chunk that is offered to it: the bytes, and for how many there is
room. -/
def seenBy (i : Nat) (ch : Chunk) : List UInt8 × Option Nat := (ch.bytes, ch.room i)

theorem takenPart_seenBy_eq_iff (ch : Chunk) (i : Nat) :
    Stream.takenPart (ch.seenBy i) = ch.bytes ↔ ch.fits i = true :=
  Stream.takenPart_eq_iff ch.bytes (ch.room i)

end Terminal.Chunk

namespace Devices

theorem combine_concat (results : List (Except IoError Unit)) (r : Except IoError Unit) :
    combine (results ++ [r]) = match combine results with
      | .ok () => .ok ()
      | .error _ => r := by
  rw [combine, List.foldl_concat, ← combine]
  cases combine results <;> rfl

/-- One success is enough for a success of the whole. -/
theorem combine_eq_ok_iff (results : List (Except IoError Unit)) :
    combine results = .ok () ↔ .ok () ∈ results := by
  induction results using List.reverseRecOn with
  | nil => simp [combine]
  | append_singleton results r ih =>
      rw [combine_concat, List.mem_append, List.mem_singleton, ← ih]
      cases combine results with
      | ok _ => simp
      | error e => simp [eq_comm]

theorem broadcast_result (devices : List Stream) (chunk : List UInt8) :
    (broadcast devices chunk).2 =
      (combine (devices.map fun d => (d.write chunk).2)).map fun _ => chunk.length := by
  rw [broadcast]
  simp only [List.map_map]
  rfl

theorem broadcast_eq_ok_iff (devices : List Stream) (chunk : List UInt8) :
    (broadcast devices chunk).2 = .ok chunk.length ↔
      ∃ d ∈ devices, (d.write chunk).2 = .ok () := by
  rw [broadcast_result, ← List.mem_map, ← combine_eq_ok_iff]
  cases combine (devices.map fun d => (d.write chunk).2) with
  | ok _ => exact ⟨fun _ => rfl, fun _ => rfl⟩
  | error e => exact ⟨nofun, nofun⟩

/-- A write that does not return the length of the chunk returns an error. -/
theorem broadcast_cases (devices : List Stream) (chunk : List UInt8) :
    (broadcast devices chunk).2 = .ok chunk.length ∨
      ∃ e, (broadcast devices chunk).2 = .error e := by
  rw [broadcast_result]
  cases combine (devices.map fun d => (d.write chunk).2) with
  | ok _ => exact .inl rfl
  | error e => exact .inr ⟨e, rfl⟩

end Devices

/-! ## Consoles -/

namespace Devices

/-- What the bytes are written through: the consoles, or one of the writers made from them. -/
inductive Handle
  | consoles
  | writer (n : Nat)
  deriving DecidableEq, Repr

/-- A chunk that is written through a handle. -/
structure Call where
  handle : Handle
  chunk : Chunk

/-- What a call returns with so many devices: the length of the chunk if one of them has room for
all of it, and an error if none has. -/
structure Call.Returns (n : Nat) (call : Call) (result : Except IoError Nat) : Prop where
  ok_iff : result = .ok call.chunk.bytes.length ↔ ∃ i < n, call.chunk.fits i = true
  error_iff : (∃ e, result = .error e) ↔ ∀ i < n, call.chunk.fits i = false

namespace Consoles

/-- The consoles when a chunk comes: each device has the room that it has then. -/
def meet (c : Consoles) (ch : Chunk) : Consoles :=
  { c with
    devices := c.devices.mapIdx fun i d => { d with out := { d.out with room := ch.room i } } }

/-- Write a chunk.  All handles share the devices. -/
def serve (c : Consoles) (call : Call) : Consoles × Except IoError Nat :=
  match call.handle with
  | .consoles | .writer _ => (c.meet call.chunk).write call.chunk.bytes

/-- Write several chunks, whatever becomes of each. -/
def serveAll (c : Consoles) : List Call → Consoles × List (Except IoError Nat)
  | [] => (c, [])
  | call :: rest =>
      let (c, result) := c.serve call
      let (c, results) := c.serveAll rest
      (c, result :: results)

theorem serve_eq (c : Consoles) (call : Call) :
    c.serve call = (c.meet call.chunk).write call.chunk.bytes := by
  rw [serve]
  cases call.handle <;> rfl

/-- The bytes that each device has taken. -/
def taken (c : Consoles) : List (List UInt8) := c.devices.map fun d => d.out.taken

/-! ### While they are open -/

section

variable {c : Consoles} (hopen : c.isClosed = false)

/-- A call that does not return the length of its chunk returns an error. -/
theorem result_serve_cases (c : Consoles) (call : Call) :
    (c.serve call).2 = .ok call.chunk.bytes.length ∨ ∃ e, (c.serve call).2 = .error e := by
  rw [serve_eq]
  exact broadcast_cases _ _

include hopen

theorem write_of_open (bytes : List UInt8) : c.write bytes =
    ({ c with devices := c.devices.map fun d => { d with out := (d.out.write bytes).1 } },
      (broadcast (c.devices.map Device.out) bytes).2) := by
  simp only [write, current, hopen, if_neg Bool.false_ne_true, broadcast, List.map_map,
    List.zipWith_map_right, List.zipWith_self]
  rfl

theorem isClosed_serve (call : Call) : (c.serve call).1.isClosed = false := by
  rw [serve_eq]
  exact hopen

/-- Each device takes what it has room for, whatever the others do. -/
theorem taken_serve (call : Call) (i : Nat) : (c.serve call).1.taken[i]? =
    c.taken[i]?.map fun before => before ++ Stream.takenPart (call.chunk.seenBy i) := by
  rw [serve_eq, write_of_open (c := c.meet call.chunk) hopen]
  simp only [taken, meet, List.getElem?_map, List.getElem?_mapIdx, Option.map_map]
  congr 1
  funext d
  exact Stream.taken_write _ _

theorem length_taken_serve (call : Call) : (c.serve call).1.taken.length = c.taken.length := by
  rw [serve_eq, write_of_open (c := c.meet call.chunk) hopen]
  simp [taken, meet]

/-- A call succeeds exactly if some device has room for the whole chunk. -/
theorem result_serve_iff (call : Call) : (c.serve call).2 = .ok call.chunk.bytes.length ↔
    ∃ i < c.taken.length, call.chunk.fits i = true := by
  rw [serve_eq, write_of_open (c := c.meet call.chunk) hopen]
  simp only [broadcast_eq_ok_iff, Stream.write_eq_ok_iff]
  simp [meet, taken, List.mem_iff_getElem, Chunk.fits]

/-- What a device has taken in the end depends on the chunks and on its own room for them. -/
theorem taken_serveAll (calls : List Call) (i : Nat) : (c.serveAll calls).1.taken[i]? =
    c.taken[i]?.map fun before =>
      before ++ (calls.map (·.chunk.seenBy i)).flatMap Stream.takenPart := by
  induction calls generalizing c with
  | nil => simp [serveAll]
  | cons call rest ih =>
      rw [serveAll]
      simp only
      rw [ih (isClosed_serve hopen call), taken_serve hopen, Option.map_map]
      congr 1
      funext before
      rw [Function.comp_apply, List.map_cons, List.flatMap_cons, List.append_assoc]

theorem returns_serve (call : Call) : call.Returns c.taken.length (c.serve call).2 := by
  have hnone : (∀ i < c.taken.length, call.chunk.fits i = false) ↔
      ¬ (c.serve call).2 = .ok call.chunk.bytes.length := by
    rw [result_serve_iff hopen]
    simp
  refine ⟨result_serve_iff hopen call, ?_⟩
  rw [hnone]
  rcases c.result_serve_cases call with hok | ⟨e, herror⟩
  · rw [hok]
    exact ⟨nofun, fun hne => absurd rfl hne⟩
  · rw [herror]
    exact ⟨nofun, fun _ => ⟨e, rfl⟩⟩

theorem returns_serveAll (calls : List Call) :
    List.Forall₂ (Call.Returns c.taken.length) calls (c.serveAll calls).2 := by
  induction calls generalizing c with
  | nil => exact .nil
  | cons call rest ih =>
      have hrest := ih (isClosed_serve hopen call)
      rw [length_taken_serve hopen] at hrest
      exact .cons (returns_serve hopen call) hrest

end

/-! ### Once they are closed -/

theorem write_of_closed {c : Consoles} (hclosed : c.isClosed = true) (bytes : List UInt8) :
    c.write bytes = (c, .error closed) := by
  obtain ⟨devices, skipped, input, isClosed⟩ := c
  cases hclosed
  rfl

theorem taken_meet (c : Consoles) (ch : Chunk) : (c.meet ch).taken = c.taken := by
  apply List.ext_getElem?
  intro i
  simp only [taken, meet, List.getElem?_map, List.getElem?_mapIdx, Option.map_map]
  rfl

theorem serveAll_of_closed {c : Consoles} (hclosed : c.isClosed = true) (calls : List Call) :
    (c.serveAll calls).1.taken = c.taken ∧
      (c.serveAll calls).2 = calls.map fun _ => .error closed := by
  induction calls generalizing c with
  | nil => exact ⟨rfl, rfl⟩
  | cons call rest ih =>
      have hmeet : (c.meet call.chunk).isClosed = true := hclosed
      obtain ⟨hrest, hresults⟩ := ih hmeet
      rw [serveAll, serve_eq, write_of_closed hmeet]
      exact ⟨hrest.trans (c.taken_meet call.chunk), congrArg (_ :: ·) hresults⟩

theorem taken_close (c : Consoles) : c.close.taken = c.taken := by
  simp only [taken, close, List.map_map]
  rfl

/-- While the consoles are open, each device takes what it has room for of every chunk, and a write
fails exactly if no device takes the whole chunk.  Once they are closed, every write fails and
changes nothing. -/
theorem failing_device_disturbs_none {c : Consoles} (hopen : c.isClosed = false)
    (calls : List Call) :
    let after := (c.serveAll calls).1
    (∀ i before, c.taken[i]? = some before →
      after.taken[i]? =
        some (before ++ (calls.map (·.chunk.seenBy i)).flatMap Stream.takenPart) ∧
      ((∀ call ∈ calls, call.chunk.fits i = true) →
        after.taken[i]? = some (before ++ calls.flatMap (·.chunk.bytes))) ∧
      ∀ call ∈ calls, Stream.takenPart (call.chunk.seenBy i) <+: call.chunk.bytes ∧
        (Stream.takenPart (call.chunk.seenBy i) = call.chunk.bytes ↔
          call.chunk.fits i = true)) ∧
    List.Forall₂ (Call.Returns c.taken.length) calls (c.serveAll calls).2 ∧
    (∀ bytes, after.close.write bytes = (after.close, .error closed)) ∧
    (∀ later, (after.close.serveAll later).1.taken = after.taken ∧
      (after.close.serveAll later).2 = later.map fun _ => .error closed) ∧
    closed.kind = .brokenPipe := by
  intro after
  have hclosed : after.close.isClosed = true := rfl
  refine ⟨fun i before hbefore => ?_, returns_serveAll hopen calls, write_of_closed hclosed,
    fun later => ?_, rfl⟩
  · have htaken : after.taken[i]? =
        some (before ++ (calls.map (·.chunk.seenBy i)).flatMap Stream.takenPart) := by
      rw [taken_serveAll hopen, hbefore, Option.map_some]
    refine ⟨htaken, fun hfits => ?_, fun call _ =>
      ⟨Stream.takenPart_prefix _, call.chunk.takenPart_seenBy_eq_iff i⟩⟩
    have hwhole : (calls.map (·.chunk.seenBy i)).flatMap Stream.takenPart =
        calls.flatMap (·.chunk.bytes) := by
      rw [List.flatMap_map]
      exact List.flatMap_congr fun call hcall =>
        (call.chunk.takenPart_seenBy_eq_iff i).mpr (hfits call hcall)
    rw [htaken, hwhole]
  · obtain ⟨htaken, hresults⟩ := serveAll_of_closed hclosed later
    exact ⟨htaken.trans after.taken_close, hresults⟩

/-- Two devices that have taken nothing yet. -/
def pair : Consoles :=
  { devices := [⟨"a", .endless, none⟩, ⟨"b", .endless, none⟩]
    skipped := []
    input := ⟨[], [], true⟩
    isClosed := false }

/-- Three chunks: the first device takes half of the first one, no device takes the second, and both
take the third. -/
def unevenCalls : List Call :=
  [⟨.consoles, [1, 2], fun i => if i = 0 then some 1 else none⟩,
    ⟨.writer 0, [3, 4], fun i => if i = 0 then some 0 else some 1⟩,
    ⟨.writer 1, [5], fun _ => some 1⟩]

theorem failing_device_disturbs_none_uneven :
    pair.isClosed = false ∧
    (pair.serveAll unevenCalls).1.taken[0]? = some [1, 5] ∧
    (pair.serveAll unevenCalls).1.taken[1]? = some [1, 2, 3, 5] ∧
    (pair.serveAll unevenCalls).2 = [.ok 2, .error Stream.gone, .ok 1] ∧
    (pair.serveAll unevenCalls).1.close.write [6] =
      ((pair.serveAll unevenCalls).1.close, .error closed) := by
  have hall := failing_device_disturbs_none (c := pair) rfl unevenCalls
  exact ⟨rfl, (hall.1 0 [] rfl).1, (hall.1 1 [] rfl).1, rfl, hall.2.2.1 [6]⟩

end Consoles

end Devices

end StatusBoard
