import StatusBoard.Source.Readings
import StatusBoard.Config.Environment
import StatusBoard.Terminal.Geometry
import StatusBoard.Terminal.Theme

/-!
Everything outside that the board looks at.
-/

namespace StatusBoard.Source

open Terminal

/-- The outside at one moment: files, variables of the environment, the addresses of the host and
the time. -/
structure Surroundings where
  file : String → File
  lookup : String → Option String
  addresses : Except Fault (List String)
  /-- Seconds since the start of 1970. -/
  now : Int

namespace Surroundings

def readings (w : Surroundings) (c : Config.Sources) : Readings :=
  { release := readRelease c.releaseFile (w.file c.releaseFile)
    applications :=
      (readApplications (w.file c.stateFile)).mapError (ApplicationsError.fault c.stateFile)
    addresses := w.addresses.map shownAddresses
    now := w.now }

def facts (w : Surroundings) (c : Config.Sources) : Frame.Facts := (w.readings c).facts c.product

/-- The theme, which may also be plain by request. -/
def theme (w : Surroundings) (isPlain : Bool) : Theme :=
  if isPlain then .plain else .ofNoColor (w.lookup "NO_COLOR")

def size (w : Surroundings) : Option Size :=
  Geometry.environmentSize (w.lookup "COLUMNS") (w.lookup "LINES")

end Surroundings

end StatusBoard.Source
