import Crosscheck.Java.Grammar.Declarations
/-!
# Reading a source

`parse` reads the bytes of a source as a tree, if they are syntactically well-formed.
-/

namespace Crosscheck.Java

open Crosscheck.Text

/-- Closes a whole file: comments before the first and after the last part are its children, and it
reaches to the end of the text. -/
def Part.closeFile (first : Cursor) (parts : List Part) (trailing : List Node) (stop : Nat) :
    Node :=
  let children := parts.flatMap (fun part => part.before ++ [part.node]) ++ trailing
  let head := (children.head?.map fun node => (node.start, node.row)).getD
    (stop, first.row + (first.rest.filter (· == .char '\n')).length)
  ⟨"program", true, none, head.1, stop, head.2, children⟩

/-- Reads a source, if it is well-formed. No phrase nests more than a fixed number of levels
between one lexeme and the next, so the fuel, a multiple of the number of glyphs, is enough. -/
def parseText (text : Glyphs) : Option Node :=
  let first := Cursor.start text
  match Reader.read Grammar.rules (64 * (text.length + 2)) (.many Grammar.topLevel) first with
  | none => none
  | some (parts, c) =>
    let (trailing, c) := c.layout c.rest.length
    if c.rest.isEmpty then some (Part.closeFile first parts trailing c.offset) else none

/-- Reads the bytes of a source. -/
def parse (source : Bytes) : Option Node := parseText (decode source)

end Crosscheck.Java
