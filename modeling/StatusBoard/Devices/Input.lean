import StatusBoard.Fault

/-!
Input from several devices.

Each device has a reader that puts chunks into one queue.  Whoever reads takes a chunk from the
queue and keeps what he has no space for, to be returned first next time.
-/

namespace StatusBoard.Devices

/-- The largest chunk that a reader takes at once. -/
def chunkSize : Nat := 256

/-- Cut bytes into chunks, of which all but the last are full. -/
def chunks (bytes : List UInt8) : List (List UInt8) :=
  if _h : bytes = [] then []
  else bytes.take chunkSize :: chunks (bytes.drop chunkSize)
termination_by bytes.length
decreasing_by
  have := List.length_pos_iff.2 _h
  simp only [chunkSize, List.length_drop]
  omega

/-- Input that has arrived and has not been returned. -/
structure Input where
  /-- What is left of the chunk taken last. -/
  pending : List UInt8
  /-- The chunks in the queue, oldest first. -/
  queue : List (List UInt8)
  /-- Whether a reader may still bring more. -/
  isOpen : Bool
  deriving DecidableEq, Repr

/-- Why no chunk could be taken. -/
inductive NoChunk
  /-- All readers have ended. -/
  | ended
  /-- Nothing has arrived so far. -/
  | yet
  deriving DecidableEq, Repr

namespace Input

def push (i : Input) (more : List (List UInt8)) : Input := { i with queue := i.queue ++ more }

def receive (i : Input) : Input × Except NoChunk (List UInt8) :=
  match i.queue with
  | c :: rest => ({ i with queue := rest }, .ok c)
  | [] => (i, .error (if i.isOpen then .yet else .ended))

/-- Return what is pending, as much as there is space for. -/
def drain (i : Input) (space : Nat) : Input × List UInt8 :=
  ({ i with pending := i.pending.drop space }, i.pending.take space)

/-- Read into a space, from a chunk that is taken if none is pending.  Once all readers have ended
and all has been returned, nothing is read. -/
def read (i : Input) (space : Nat) : Input × Except NoChunk (List UInt8) :=
  if i.pending ≠ [] then
    let (i, bytes) := i.drain space
    (i, .ok bytes)
  else
    match i.receive with
    | (i, .ok c) =>
        let (i, bytes) := { i with pending := c }.drain space
        (i, .ok bytes)
    | (i, .error .ended) => (i, .ok [])
    | (i, .error .yet) => (i, .error .yet)

/-- The failure of a read that has waited in vain. -/
def timedOut : IoError := ⟨.timedOut, "no console input"⟩

end Input

end StatusBoard.Devices
