import StatusBoard.Devices.Input
import StatusBoard.Devices.Output
import StatusBoard.Source.File
import StatusBoard.Terminal.Geometry

/-!
The consoles of the board: the devices that could be opened, used as one.

What is written goes to all of them, what is read comes from whichever has input, and the first
terminal that knows its size gives the size.
-/

namespace StatusBoard.Devices

open Source
open Terminal (Size)

/-- What a terminal knows about itself. -/
structure Terminal where
  columns : Nat
  rows : Nat
  /-- Whether input arrives as it is typed, and not line by line. -/
  isRaw : Bool
  /-- What has been typed on a line that is not finished. -/
  line : List UInt8
  deriving DecidableEq, Repr

/-- What stands under the path of a device. -/
inductive Candidate
  | file (f : File)
  | terminal (columns rows : Nat)
  deriving DecidableEq, Repr

/-- An open device. -/
structure Device where
  path : String
  out : Stream
  terminal : Option Terminal
  deriving DecidableEq, Repr

/-- A device that could not be opened, and why. -/
structure Skipped where
  path : String
  reason : String
  deriving DecidableEq, Repr

/-- Open a device.  A file keeps its content, all of which is input, and grows at its end. -/
def Device.tryOpen (isRaw : Bool) (path : String) : Candidate → Except Skipped (Device × List UInt8)
  | .terminal columns rows =>
      .ok (⟨path, .endless, some ⟨columns, rows, isRaw, []⟩⟩, [])
  | .file (.bytes content) => .ok (⟨path, { room := none, taken := content }, none⟩, content)
  | .file .directory => .error ⟨path, IoError.directory.message⟩
  | .file .absent => .error ⟨path, IoError.noSuchFile.message⟩
  | .file (.refused cause) => .error ⟨path, cause.message⟩

/-- The devices in the order in which they were named, and the input from all of them. -/
structure Consoles where
  devices : List Device
  skipped : List Skipped
  input : Input
  isClosed : Bool

namespace Consoles

/-- Open every device that can be opened; there has to be one. -/
def openAll (isRaw : Bool) (candidates : List (String × Candidate)) : Except Fault Consoles :=
  let tried := candidates.map fun c => Device.tryOpen isRaw c.1 c.2
  let opened := tried.filterMap fun r => match r with
    | .ok d => some d
    | .error _ => none
  let skipped := tried.filterMap fun r => match r with
    | .ok _ => none
    | .error s => some s
  if opened = [] then .error (.noConsole (candidates.map Prod.fst))
  else
    .ok
      { devices := opened.map Prod.fst
        skipped
        input := ⟨[], opened.flatMap fun d => chunks d.2, opened.any fun d => d.1.terminal.isSome⟩
        isClosed := false }

def current (c : Consoles) : List Device := if c.isClosed then [] else c.devices

def write (c : Consoles) (chunk : List UInt8) : Consoles × Except IoError Nat :=
  let (outs, result) := broadcast (c.current.map Device.out) chunk
  ({ c with devices := if c.isClosed then c.devices
                       else List.zipWith (fun d out => { d with out }) c.devices outs },
    result)

/-- Write all of some bytes to every open device.  Where there is nothing to write, nothing can
fail. -/
def writeAll (c : Consoles) (bytes : List UInt8) : Consoles × Except IoError Unit :=
  if bytes = [] then (c, .ok ())
  else
    let (c, result) := c.write bytes
    (c, result.map fun _ => ())

def content? (c : Consoles) (path : String) : Option (List UInt8) :=
  (c.devices.find? fun d => d.path = path).map fun d => d.out.taken

/-- Whether one of the open devices is a terminal. -/
def hasTerminal (c : Consoles) : Bool := c.current.any fun d => d.terminal.isSome

/-- The size that the first terminal reports that knows its size. -/
def size? (c : Consoles) : Option Size :=
  c.current.findSome? fun d => d.terminal.bind fun t => Size.reported? t.columns t.rows

def changeTerminal (c : Consoles) (path : String) (f : Terminal → Terminal) : Consoles :=
  { c with
    devices := c.devices.map fun d =>
      if d.path = path then { d with terminal := d.terminal.map f } else d }

def resize (c : Consoles) (path : String) (columns rows : Nat) : Consoles :=
  c.changeTerminal path fun t => { t with columns, rows }

def terminal? (c : Consoles) (path : String) : Option Terminal :=
  (c.devices.find? fun d => d.path = path).bind Device.terminal

def takeInput (c : Consoles) : Consoles × List (List UInt8) :=
  ({ c with input := { c.input with queue := [] } }, c.input.queue)

/-- Cut what has been typed into finished lines and the rest.  The return key ends a line. -/
def cutLines (typed : List UInt8) : List (List UInt8) × List UInt8 :=
  typed.foldl
    (fun (done, line) b =>
      if b = 0x0a ∨ b = 0x0d then (done ++ [line ++ [0x0a]], []) else (done, line ++ [b]))
    ([], [])

def type (c : Consoles) (path : String) (bytes : List UInt8) : Consoles :=
  match c.terminal? path with
  | none => c
  | some t =>
      if c.isClosed then c
      else if t.isRaw then { c with input := c.input.push (chunks bytes) }
      else
        let (done, line) := cutLines (t.line ++ bytes)
        { c.changeTerminal path ({ · with line }) with
          input := c.input.push (done.flatMap chunks) }

/-- Close every device; terminals are left as they were found.  What has arrived can still be
read. -/
def close (c : Consoles) : Consoles :=
  { c with
    devices := c.devices.map fun d =>
      { d with terminal := d.terminal.map ({ · with isRaw := false }) }
    input := { c.input with isOpen := false }
    isClosed := true }

end Consoles

end StatusBoard.Devices
