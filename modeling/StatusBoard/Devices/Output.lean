import StatusBoard.Stream

/-!
Writing to several devices at once.

Each device is offered every chunk, whatever became of the chunks before and of the other devices.
Writing succeeds if at least one device takes the chunk.
-/

namespace StatusBoard.Devices

/-- The failure of a write when all devices have been closed. -/
def closed : IoError := ⟨.brokenPipe, "console multiplexer is closed"⟩

/-- The outcome for all devices, from the outcomes for each. -/
def combine (results : List (Except IoError Unit)) : Except IoError Unit :=
  results.foldl
    (fun sofar r => match sofar, r with
      | .ok (), _ => .ok ()
      | .error _, r => r)
    (.error closed)

def broadcast (devices : List Stream) (chunk : List UInt8) : List Stream × Except IoError Nat :=
  let outcomes := devices.map fun d => d.write chunk
  (outcomes.map Prod.fst, (combine (outcomes.map Prod.snd)).map fun _ => chunk.length)

end StatusBoard.Devices
