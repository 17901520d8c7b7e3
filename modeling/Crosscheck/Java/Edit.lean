import Crosscheck.Java.Source
import Crosscheck.Text.Position
/-!
# Editing a source

A source is edited by putting text in place of a range of its bytes; everything outside the range
stays as it is.
-/

namespace Crosscheck.Java

open Crosscheck.Text

/-- Puts text in place of the bytes from `start` up to `stop`. -/
def replaceRange (source : Bytes) (start stop : Nat) (text : Glyphs) : Bytes :=
  source.take start ++ encode text ++ source.drop stop

/-- Puts text in place of a node. -/
def Node.replace (node : Node) (source : Bytes) (text : Glyphs) : Bytes :=
  replaceRange source node.start node.stop text

/-- An edit as it is told to a reader that keeps the old tree: where the range starts and stops, and
where the text in its place stops, as offsets and as positions. -/
structure Change where
  start : Nat
  stop : Nat
  newStop : Nat
  startAt : Position
  stopAt : Position
  newStopAt : Position
  deriving DecidableEq, Repr

/-- The edit that `replaceRange` makes. The new stop is a place in the new source, the others are
places in the old one. `parse` has no use for it, since it reads the new source as a whole. -/
def Change.of (source : Bytes) (start stop : Nat) (text : Glyphs) : Change :=
  let newStop := start + (encode text).length
  ⟨start, stop, newStop, position source start, position source stop,
    position (replaceRange source start stop text) newStop⟩

/-- Whether a source is syntactically well-formed. -/
def wellFormed (source : Bytes) : Bool := (parse source).isSome

end Crosscheck.Java
