import Crosscheck.Document.Yaml.Cursor
/-!
# Complaints in print

A complaint quotes the line that it is about, with a caret below the place; of a long line only the
neighbourhood of the place.
-/

namespace Crosscheck.Document.Yaml

/-- How far a quoted line may go to either side before it is cut. -/
def quoteReach : Nat := 37

/-- How much of a line that is too long is quoted to either side. -/
def quoteLength : Nat := 32

/-- The line around a place, and the caret below it. -/
def Mark.quote (mark : Mark) (text : List Char) : String :=
  let stops (c : Char) : Bool := isBreak c || c == '\r' || c == '\x00'
  let before := ((text.take mark.index).reverse.takeWhile (!stops ·))
  let after := (text.drop mark.index).takeWhile (!stops ·)
  let (head, before) :=
    if before.length < quoteReach then ("", before) else (" ... ", before.take quoteLength)
  let (tail, after) :=
    if after.length < quoteReach then ("", after) else (" ... ", after.take quoteLength)
  "    " ++ head ++ String.ofList (before.reverse ++ after) ++ tail ++ "\n"
    ++ String.ofList (List.replicate (4 + before.length + head.length) ' ') ++ "^"

/-- A place in print. -/
def Mark.render (mark : Mark) (text : List Char) : String :=
  s!"  in \"<unicode string>\", line {mark.line + 1}, column {mark.column + 1}:\n"
    ++ mark.quote text

/-- Whether two places have the same line and column. -/
def Mark.meets (mark other : Mark) : Bool := mark.line == other.line && mark.column == other.column

/-- A complaint about a text in print. The place of the context is left out where it is that of the
problem. -/
def Complaint.render (complaint : Complaint) (text : String) : String :=
  let cs := text.toList
  let contextMark := complaint.contextMark.filter fun mark => !complaint.mark.any mark.meets
  "\n".intercalate (complaint.context.toList ++ (contextMark.map (·.render cs)).toList
    ++ [complaint.problem] ++ (complaint.mark.map (·.render cs)).toList)

end Crosscheck.Document.Yaml
