/-!
# Paths

A `Path` is what the text of a path names, with the layout of the text forgotten: doubled and
trailing slashes, and parts that are a single dot. Two dots are kept, since what they mean depends
on the files.
-/

namespace Crosscheck.Files

/-- What a path starts from. Exactly two leading slashes are a root of their own. -/
inductive Root
  | here
  | slash
  | doubleSlash
  deriving DecidableEq, Repr, Inhabited

/-- A path: its root and the parts that follow. -/
structure Path where
  root : Root
  parts : List String
  deriving DecidableEq, Repr, Inhabited

namespace Path

/-- The pieces of a text between slashes. -/
def splitSlash : List Char → List (List Char)
  | [] => [[]]
  | c :: rest =>
    match splitSlash rest with
    | [] => [[c]]
    | piece :: pieces => if c == '/' then [] :: piece :: pieces else (c :: piece) :: pieces

/-- The parts that a text names. -/
def partsOf (cs : List Char) : List String :=
  ((splitSlash cs).filter fun piece => piece != [] && piece != ['.']).map String.ofList

/-- The root of a text with so many leading slashes. -/
def rootOf : Nat → Root
  | 0 => .here
  | 2 => .doubleSlash
  | _ => .slash

/-- Reads a path. -/
def ofString (s : String) : Path :=
  ⟨rootOf (s.toList.takeWhile (· == '/')).length, partsOf s.toList⟩

/-- The text of a root. -/
def rootText : Root → String
  | .here => ""
  | .slash => "/"
  | .doubleSlash => "//"

/-- The text of a path. -/
def render (path : Path) : String :=
  match path.root, path.parts with
  | .here, [] => "."
  | root, parts => rootText root ++ "/".intercalate parts

/-- Whether the path does not depend on where one stands. -/
def isAbsolute (path : Path) : Bool := path.root != .here

/-- The path that is reached by going on from the first path along the second. -/
def join (path other : Path) : Path :=
  if other.isAbsolute then other else ⟨path.root, path.parts ++ other.parts⟩

/-- Goes on along the path that a text names. -/
def child (path : Path) (text : String) : Path := path.join (ofString text)

/-- The directory that relative paths start from. -/
def workingDirectory : Path := ⟨.slash, ["tmp", "w"]⟩

/-- The path from the root. -/
def absolute (path : Path) : Path :=
  if path.isAbsolute then path else workingDirectory.join path

/-- The path without its last part. -/
def parent (path : Path) : Path := ⟨path.root, path.parts.dropLast⟩

/-- The last part, empty if there is none. -/
def name (path : Path) : String := (path.parts.getLast?).getD ""

/-- Cuts a name before its last dot. Neither a leading dot nor a trailing one starts a suffix. -/
def splitName (name : String) : String × String :=
  let reversed := name.toList.reverse
  let tail := reversed.takeWhile (· != '.')
  let front := (reversed.drop (tail.length + 1)).reverse
  if tail.length < reversed.length && tail != [] && front != [] then
    (String.ofList front, String.ofList ('.' :: tail.reverse))
  else (name, "")

/-- The last part without its suffix. -/
def stem (path : Path) : String := (splitName path.name).1

/-- The suffix of the last part, with its dot. -/
def suffix (path : Path) : String := (splitName path.name).2

/-- The path with another last part. -/
def sibling (path : Path) (name : String) : Path := ⟨path.root, path.parts.dropLast ++ [name]⟩

end Path

end Crosscheck.Files
