import Crosscheck.Java.Edit
import Crosscheck.World
/-!
# Source units

A source with the path it belongs to.
-/

namespace Crosscheck.Java

open Crosscheck.Files Crosscheck.Text

/-- A source and its absolute path. -/
structure SourceUnit where
  path : Path
  source : Bytes

namespace SourceUnit

/-- A source that belongs to a path. -/
def ofBytes (path : Path) (source : Bytes) : SourceUnit := ⟨path.absolute, source⟩

/-- The source in a file. -/
def ofFile (fs : FileSystem) (path : Path) : Except Fault SourceUnit :=
  match fs.read path with
  | .ok source => .ok (ofBytes path source)
  | .error e => .error (.unreadableSource path e)

/-- The same source at another path. -/
def moveTo (u : SourceUnit) (path : Path) : SourceUnit := { u with path := path.absolute }

/-- The name of the folder that the path lies in. -/
def folderName (u : SourceUnit) : String := u.path.parent.name

/-- The tree of the source, if it is well-formed. -/
def tree? (u : SourceUnit) : Option Node := parse u.source

/-- A unit in print. -/
def render (u : SourceUnit) : String := s!"SourceUnit({quoted u.path.render})"

/-- Writes the source to a path, or to its own. A refusal is noted. -/
def write (u : SourceUnit) (path : Option Path) : Action Bool := do
  let path := path.getD u.path
  match (← Action.files).write path u.source with
  | .ok fs =>
    Action.setFiles fs
    return true
  | .error e =>
    Action.note .error s!"Error writing {path.render}: {e.message}"
    return false

end SourceUnit

end Crosscheck.Java
