import Crosscheck.Mutation.Cleanup
/-!
# The corpus of sources

Which folders of a corpus are scanned, and which sources under a folder are seeds and which mutants.
-/

namespace Crosscheck.Corpus

open Crosscheck.Files Crosscheck.Mutation

/-- Everything below a folder whose name ends like that of a source, sorted part by part. -/
def sources (fs : FileSystem) (folder : Path) : List Path :=
  ((fs.descendants folder).map (·.1)).filter fun path =>
    sourceSuffix.toList.isSuffixOf path.name.toList

/-- The folders to scan: the directories in the corpus that are not hidden, or the corpus itself if
there are none. -/
def folders (fs : FileSystem) (corpus : Path) : List Path :=
  let corpus := corpus.absolute
  if fs.isDirectory corpus then
    let inside := (fs.children corpus).filterMap fun (path, entry) =>
      if entry.isDirectory && path.name.toList.head? != some '.' then some path else none
    if inside.isEmpty then [corpus] else inside
  else []

/-- The sources that are no mutants. -/
def seeds (fs : FileSystem) (folder : Path) : List Path :=
  (sources fs folder).filter fun path => !isMutant path

/-- The sources that are mutants. -/
def mutants (fs : FileSystem) (folder : Path) : List Path :=
  (sources fs folder).filter isMutant

end Crosscheck.Corpus
