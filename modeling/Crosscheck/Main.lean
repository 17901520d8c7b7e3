import Crosscheck.Command.Run
/-!
# The program

The outer layer: takes the files below the current directory into a world, runs a command there, and
carries out what the command did to the files. It starts no processes: every analyzer counts as one
that is not installed, so a campaign generates the mutants and records the commands that would have
been run.
-/

namespace Crosscheck.Program

open Crosscheck.Files Crosscheck.Text

/-- Takes directory entries and all below them into a file system. -/
partial def takeIn (folder : Path) (entries : List IO.FS.DirEntry) (fs : FileSystem) :
    IO FileSystem := do
  match entries with
  | [] => return fs
  | entry :: rest =>
    let path := folder.child entry.fileName
    if ← entry.path.isDir then
      let inside ← takeIn path (← entry.path.readDir).toList
        ((fs.makeDirectory path).toOption.getD fs)
      takeIn folder rest inside
    else
      let content := (← IO.FS.readBinFile entry.path).toList
      takeIn folder rest ((fs.write path content).toOption.getD fs)

/-- The name of a location below the working directory. -/
def nameBelow? (loc : Location) : Option String :=
  if Path.workingDirectory.parts.isPrefixOf loc && loc != Path.workingDirectory.parts then
    some ("/".intercalate (loc.drop Path.workingDirectory.parts.length))
  else none

/-- Makes and writes what is new or changed. -/
def putBack (before after : FileSystem) : IO Unit := do
  for (loc, entry) in after.entries do
    if before.find? loc != some entry then
      if let some name := nameBelow? loc then
        match entry with
        | .directory => IO.FS.createDirAll name
        | .file content => IO.FS.writeBinFile name (ByteArray.mk content.toArray)

/-- Removes the files that are gone. -/
def takeAway (before after : FileSystem) : IO Unit := do
  for (loc, entry) in before.entries do
    if entry.isFile && (after.find? loc).isNone then
      if let some name := nameBelow? loc then IO.FS.removeFile name

/-- Runs a command in the current directory: its exit status. -/
def perform (command : Action Int) : IO UInt32 := do
  let here ← IO.currentDir
  let files ← takeIn Path.workingDirectory (← here.readDir).toList .initial
  let absent : Child := ⟨[], .notStarted .notFound⟩
  let script := List.replicate (files.entries.length + 1) absent
  let (result, world) := command.run.run { World.initial with files, script }
  takeAway files world.files
  putBack files world.files
  for notice in world.journal do IO.eprintln notice.render
  for line in world.transcript.complained do IO.eprintln line
  for line in world.transcript.printed do IO.println line
  match result with
  | .ok status => return UInt32.ofNat status.toNat
  | .error fault =>
    IO.eprintln fault.message
    return 1

end Crosscheck.Program

/-- The program. The first word `mutate` generates the mutants of one seed, all else runs a
campaign. -/
def main (words : List String) : IO UInt32 :=
  match words with
  | "mutate" :: rest => Crosscheck.Program.perform (Crosscheck.Command.mutate rest)
  | _ => Crosscheck.Program.perform (Crosscheck.Command.analyze words)
