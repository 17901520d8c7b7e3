import Crosscheck.Files.FileSystem
import Crosscheck.Files.Wildcard
/-!
# Access to files by path

Reading, writing, listing and removing what a path names. A path is followed name by name, two dots
leading to the directory above, and the first name that cannot be followed settles the error.

Nothing is protected: a file can be read, written over and removed by all. Names have a greatest
length where a path is looked up (`lookUp`), and nowhere else.
-/

namespace Crosscheck.Files

open Crosscheck.Text

/-- Why the system refuses an access. -/
inductive Refusal
  | notFound
  /-- Only the start of a program is refused so. -/
  | denied
  | exists
  | notDirectory
  | isDirectory
  | nameTooLong
  deriving DecidableEq, Repr

/-- The number of a refusal. -/
def Refusal.code : Refusal → Nat
  | .notFound => 2
  | .denied => 13
  | .exists => 17
  | .notDirectory => 20
  | .isDirectory => 21
  | .nameTooLong => 36

/-- The wording of a refusal. -/
def Refusal.wording : Refusal → String
  | .notFound => "No such file or directory"
  | .denied => "Permission denied"
  | .exists => "File exists"
  | .notDirectory => "Not a directory"
  | .isDirectory => "Is a directory"
  | .nameTooLong => "File name too long"

/-- A refused access to what a text names. -/
structure AccessError where
  refusal : Refusal
  subject : String
  deriving DecidableEq, Repr

/-- The message of a refused access. -/
def AccessError.message (e : AccessError) : String :=
  s!"[Errno {e.refusal.code}] {e.refusal.wording}: {quoted e.subject}"

namespace FileSystem

/-- Follows names from a location. The last of them need not exist. -/
def follow (fs : FileSystem) : Location → List String → Except Refusal Location
  | loc, [] => .ok loc
  | loc, part :: rest =>
    match fs.find? loc with
    | some .directory => follow fs (if part == ".." then loc.dropLast else loc ++ [part]) rest
    | some (.file _) => .error .notDirectory
    | none => .error .notFound

/-- The location that a path leads to. -/
def locate (fs : FileSystem) (path : Path) : Except Refusal Location :=
  fs.follow [] path.absolute.parts

/-- What a path names. -/
def entry? (fs : FileSystem) (path : Path) : Option Entry :=
  match fs.locate path with
  | .ok loc => fs.find? loc
  | .error _ => none

/-- Whether a path names anything. -/
def isPresent (fs : FileSystem) (path : Path) : Bool := (fs.entry? path).isSome

/-- Whether a path names a file. -/
def isFile (fs : FileSystem) (path : Path) : Bool := ((fs.entry? path).map Entry.isFile).getD false

/-- Whether a path names a directory. -/
def isDirectory (fs : FileSystem) (path : Path) : Bool :=
  ((fs.entry? path).map Entry.isDirectory).getD false

/-- An error about a path. -/
def refuse {α : Type} (path : Path) (refusal : Refusal) : Except AccessError α :=
  .error ⟨refusal, path.render⟩

/-! ## Names that are too long -/

/-- The number of bytes that a name can have. -/
def nameLimit : Nat := 255

/-- The number of bytes that the text of a path can have. -/
def pathLimit : Nat := 4095

/-- Whether a name that is too long is asked for on the way from a location. Only a directory is
asked for a name. -/
def meetsLongName (fs : FileSystem) : Location → List String → Bool
  | _, [] => false
  | loc, part :: rest =>
    match fs.find? loc with
    | some .directory =>
      decide (nameLimit < part.utf8ByteSize) ||
        meetsLongName fs (if part == ".." then loc.dropLast else loc ++ [part]) rest
    | _ => false

/-- Whether a path is too long to be looked up. A path with a null character does not come so
far. -/
def isTooLong (fs : FileSystem) (path : Path) : Bool :=
  !path.parts.any (·.toList.contains '\x00') &&
    (decide (pathLimit < path.render.utf8ByteSize) || fs.meetsLongName [] path.absolute.parts)

/-- Whether a path names anything. What is there was put there by a path of which no name is too
long. -/
def lookUp (fs : FileSystem) (path : Path) : Except AccessError Bool :=
  if fs.isPresent path then .ok true
  else if fs.isTooLong path then refuse path .nameTooLong
  else .ok false

/-! ## Files and directories -/

/-- The content of a file. -/
def read (fs : FileSystem) (path : Path) : Except AccessError Bytes :=
  match fs.locate path with
  | .error refusal => refuse path refusal
  | .ok loc =>
    match fs.find? loc with
    | some (.file content) => .ok content
    | some .directory => refuse path .isDirectory
    | none => refuse path .notFound

/-- Puts an entry where that is possible. -/
def place (fs : FileSystem) (path : Path) (loc : Location) (entry : Entry) :
    Except AccessError FileSystem :=
  if h : fs.CanPut loc entry then .ok (fs.put loc entry h) else refuse path .notFound

/-- Writes a file, in place of one that is there. -/
def write (fs : FileSystem) (path : Path) (content : Bytes) : Except AccessError FileSystem :=
  match fs.locate path with
  | .error refusal => refuse path refusal
  | .ok loc =>
    match fs.find? loc with
    | some .directory => refuse path .isDirectory
    | _ => fs.place path loc (.file content)

/-- Removes a file. -/
def unlink (fs : FileSystem) (path : Path) : Except AccessError FileSystem :=
  match fs.locate path with
  | .error refusal => refuse path refusal
  | .ok loc =>
    match fs.find? loc with
    | some (.file _) => .ok (fs.erase loc)
    | some .directory => refuse path .isDirectory
    | none => refuse path .notFound

/-- Removes a file if it is there. -/
def unlinkIfPresent (fs : FileSystem) (path : Path) : Except AccessError FileSystem :=
  match fs.unlink path with
  | .error ⟨.notFound, _⟩ => .ok fs
  | result => result

/-- Makes a directory that is not there yet. -/
def makeDirectory (fs : FileSystem) (path : Path) : Except AccessError FileSystem :=
  match fs.locate path with
  | .error refusal => refuse path refusal
  | .ok loc =>
    match fs.find? loc with
    | some _ => refuse path .exists
    | none => fs.place path loc .directory

/-- Makes a directory unless it is there. -/
def ensureDirectory (fs : FileSystem) (path : Path) : Except AccessError FileSystem :=
  match fs.makeDirectory path with
  | .ok fs => .ok fs
  | .error e => if e.refusal != .notFound && fs.isDirectory path then .ok fs else .error e

/-- The files after a change, or as they were with the error that refused it. -/
def settled (fs : FileSystem) : Except AccessError FileSystem → FileSystem × Option AccessError
  | .ok changed => (changed, none)
  | .error e => (fs, some e)

/-- Makes a directory unless it is there, after the directories that lead to it, down to as many
levels as there are parts to leave away. What was made before an error stays. -/
def makeDirectoriesFrom (root : Root) (fs : FileSystem) :
    List String → FileSystem × Option AccessError
  | [] => fs.settled (fs.ensureDirectory ⟨root, []⟩)
  | part :: reversed =>
    let path : Path := ⟨root, (part :: reversed).reverse⟩
    match fs.ensureDirectory path with
    | .error ⟨.notFound, _⟩ =>
      match makeDirectoriesFrom root fs reversed with
      | (fs, none) => fs.settled (fs.ensureDirectory path)
      | refused => refused
    | result => fs.settled result

/-- Makes a directory and those that lead to it, as far as they are not there. -/
def makeDirectories (fs : FileSystem) (path : Path) : FileSystem × Option AccessError :=
  makeDirectoriesFrom path.root fs path.parts.reverse

/-- The files with a directory and those that lead to it, if all of them could be made. -/
def ensureDirectories (fs : FileSystem) (path : Path) : Except AccessError FileSystem :=
  match fs.makeDirectories path with
  | (fs, none) => .ok fs
  | (_, some e) => .error e

/-! ## Listings -/

/-- The paths in a directory with their entries, sorted by name. -/
def children (fs : FileSystem) (path : Path) : List (Path × Entry) :=
  match fs.locate path with
  | .error _ => []
  | .ok loc => (fs.below loc).filterMap fun (rel, entry) =>
      match rel with
      | [name] => some (⟨path.root, path.parts ++ [name]⟩, entry)
      | _ => none

/-- The paths anywhere below a directory with their entries, sorted part by part. -/
def descendants (fs : FileSystem) (path : Path) : List (Path × Entry) :=
  match fs.locate path with
  | .error _ => []
  | .ok loc => (fs.below loc).map fun (rel, entry) =>
      (⟨path.root, path.parts ++ rel⟩, entry)

/-- The paths in a directory whose names a pattern stands for, sorted by name. -/
def matching (fs : FileSystem) (path : Path) (pattern : String) : List (Path × Entry) :=
  (fs.children path).filter fun (p, _) =>
    Wildcard.accept (Wildcard.parse pattern) p.name.toList

end FileSystem

end Crosscheck.Files
