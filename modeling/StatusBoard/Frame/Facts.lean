import StatusBoard.Calendar
import StatusBoard.Frame.Basic
import StatusBoard.Frame.Footer

/-!
Filling the frame with what the board reports: the product and its release, the time, the
addresses of the host and the installed applications.
-/

namespace StatusBoard.Frame

/-- What one refresh of the board has learnt from the outside. -/
structure Facts where
  product : String
  /-- The release, or an error in brackets. -/
  version : String
  /-- Seconds since the start of 1970. -/
  now : Int
  addresses : List String
  applications : List String
  deriving DecidableEq, Repr

def addressesLabel : String := "IP Address(es)"

def applicationsLabel : String := "Installed application(s)"

/-- A footer line as an entry of the frame. -/
def FooterLine.entry (l : FooterLine) : Entry :=
  let value : Span := ⟨l.text, .normal⟩
  { spans := match l.labelText with
      | some label => [⟨label, .label⟩, value]
      | none => [value]
    header := false
    align := .left }

def footerEntries (label : String) (items : List String) (width : Nat) : List Entry :=
  (wrapFooter label (", ".intercalate items) width).map FooterLine.entry

/-- The entries that report the facts on a screen of the given width. -/
def Facts.entries (d : Facts) (width : Nat) : List Entry :=
  [⟨[⟨d.product ++ " " ++ d.version, .normal⟩], true, .left⟩,
    ⟨[⟨Calendar.stamp d.now, .normal⟩], true, .right⟩] ++
  footerEntries addressesLabel d.addresses width ++
  footerEntries applicationsLabel d.applications width

/-- Replace header and footer by what the facts say, and show the log between them. -/
def rebuild (f : Frame) (d : Facts) (width : Nat) : Frame :=
  let f := (d.entries width).foldl Frame.add f.clear
  { f with pane := .log }

end StatusBoard.Frame
