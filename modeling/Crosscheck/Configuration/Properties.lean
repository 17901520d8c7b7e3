import Crosscheck.OrderedMap
import Crosscheck.Text.Blank
/-!
# Properties

Configuration files with one key and one value to a line. A backslash at the end of a line joins the
next one to it; lines that begin with `#` or `!` are comments.
-/

namespace Crosscheck.Configuration.Properties

open Crosscheck.Text

/-- Whether a line says nothing. -/
def isIdle (line : List Char) : Bool :=
  line.isEmpty || line.head? == some '#' || line.head? == some '!'

/-- Joins lines to a line as long as it ends with a backslash; the lines that are left. -/
def joinLines (line : List Char) : List (List Char) → List Char × List (List Char)
  | [] => (line, [])
  | next :: rest =>
    if line.getLast? == some '\\' then joinLines (line.dropLast ++ stripBy isBlank next) rest
    else (line, next :: rest)

theorem joinLines_length_le (line : List Char) (lines : List (List Char)) :
    (joinLines line lines).2.length ≤ lines.length := by
  induction lines generalizing line with
  | nil => simp [joinLines]
  | cons next rest ih =>
    unfold joinLines
    split
    · exact Nat.le_succ_of_le (ih _)
    · exact Nat.le_refl _

/-- The lines that say something, joined where they go on. -/
def statements : List (List Char) → List (List Char)
  | [] => []
  | line :: rest =>
    let line := stripBy isBlank line
    if isIdle line then statements rest
    else (joinLines line rest).1 :: statements (joinLines line rest).2
termination_by lines => lines.length
decreasing_by
  · simp
  · exact Nat.lt_succ_of_le (joinLines_length_le _ _)

/-- Cuts a text at the first mark. -/
def cutAt (mark : Char) (cs : List Char) : String × String :=
  (String.ofList (stripBy isBlank (cs.takeWhile (· != mark))),
    String.ofList (stripBy isBlank ((cs.dropWhile (· != mark)).drop 1)))

/-- The key and the value of a line: it is cut at the first equals sign, or at the first colon if
there is none. -/
def pair? (cs : List Char) : Option (String × String) :=
  if cs.contains '=' then some (cutAt '=' cs)
  else if cs.contains ':' then some (cutAt ':' cs)
  else none

/-- The lines of a text. -/
def lines : List Char → List (List Char)
  | [] => [[]]
  | c :: rest =>
    match lines rest with
    | [] => [[c]]
    | line :: more => if c == '\n' then [] :: line :: more else (c :: line) :: more

/-- Reads a text. -/
def parse (s : String) : OrderedMap String String :=
  OrderedMap.ofList ((statements (lines s.toList)).filterMap pair?)

end Crosscheck.Configuration.Properties
