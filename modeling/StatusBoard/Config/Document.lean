import StatusBoard.Config.Basic
import StatusBoard.Toml.Reader

/-!
Reading a configuration from the table of a document.

What a document does not mention keeps its default, and names that are not known are passed over.
A section may also be an array, which gives its fields in order.
-/

namespace StatusBoard.Config

open Toml

def readText : Value → Option String
  | .text t => some t
  | _ => none

def readTexts : Value → Option (List String)
  | .array items => items.mapM readText
  | _ => none

def readFlag : Value → Option Bool
  | .boolean b => some b
  | _ => none

/-- An integer from zero up to, but not including, a bound. -/
def readBelow (bound : Nat) : Value → Option Nat
  | .integer n => if 0 ≤ n ∧ n < bound then some n.toNat else none
  | _ => none

def readLength (v : Value) : Option UInt16 := (readBelow UInt16.size v).map UInt16.ofNat

def readCount (v : Value) : Option UInt64 := (readBelow UInt64.size v).map UInt64.ofNat

/-- A field of a section: its name, and how its value changes the section. -/
structure Field (σ : Type) where
  name : String
  set : Value → σ → Option σ

/-- A field that is read by `read` and stored by `put`. -/
def field {σ α : Type} (name : String) (read : Value → Option α) (put : σ → α → σ) : Field σ :=
  ⟨name, fun v s => (read v).map (put s)⟩

def setNamed {σ : Type} (fields : List (Field σ)) (t : Table) (s : σ) : Option σ :=
  fields.foldlM
    (fun s f => match t.get? f.name with
      | some v => f.set v s
      | none => some s)
    s

/-- Set fields in order; there may be fewer or more values than fields. -/
def setInOrder {σ : Type} : List (Field σ) → List Value → σ → Option σ
  | f :: fields, v :: values, s => (f.set v s).bind (setInOrder fields values)
  | _, _, s => some s

/-- Read a section over its defaults.  A date stands for a section that mentions nothing. -/
def readSection {σ : Type} (fields : List (Field σ)) (v : Value) (s : σ) : Option σ :=
  match v with
  | .table _ t => setNamed fields t s
  | .array values => setInOrder fields values s
  | .tables items => setInOrder fields (items.map (.table .header)) s
  | .date _ => some s
  | _ => none

namespace Console

def fields : List (Field Console) :=
  [field "devices" readTexts fun s a => { s with devices := a },
    field "primary" readText fun s a => { s with primary := a },
    field "width" readLength fun s a => { s with width := some a },
    field "height" readLength fun s a => { s with height := some a },
    field "raw_mode" readFlag fun s a => { s with rawMode := a }]

end Console

namespace Refresh

def fields : List (Field Refresh) :=
  [field "tick_interval_ms" readCount fun s a => { s with tickMs := a },
    field "clear_interval_secs" readCount fun s a => { s with clearSecs := a }]

end Refresh

namespace Sources

def fields : List (Field Sources) :=
  [field "product_name" readText fun s a => { s with product := a },
    field "os_release_file" readText fun s a => { s with releaseFile := a },
    field "state_file" readText fun s a => { s with stateFile := a }]

end Sources

namespace Logging

def fields : List (Field Logging) :=
  [field "warning_marker" readText fun s a => { s with warningMarker := a },
    field "error_marker" readText fun s a => { s with errorMarker := a },
    field "max_lines" readCount fun s a => { s with maxLines := a },
    field "mirror_stdout" readFlag fun s a => { s with mirrored := a },
    field "filter" readText fun s a => { s with filter := a }]

end Logging

def sectionFields : List (Field Config) :=
  [⟨"console", fun v c => (readSection Console.fields v c.console).map ({ c with console := · })⟩,
    ⟨"refresh", fun v c => (readSection Refresh.fields v c.refresh).map ({ c with refresh := · })⟩,
    ⟨"sources", fun v c => (readSection Sources.fields v c.sources).map ({ c with sources := · })⟩,
    ⟨"log", fun v c => (readSection Logging.fields v c.log).map ({ c with log := · })⟩]

def ofDocument? (document : String) : Option Config :=
  (Toml.read? document).bind fun t => setNamed sectionFields t standard

end StatusBoard.Config
