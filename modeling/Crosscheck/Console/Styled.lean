import Crosscheck.Text.Blank
import Crosscheck.Text.Case
/-!
# Styled text

Text with marks in square brackets that set its style, such as `[bold]` and `[/bold]`. A mark begins
with a small letter or one of `#`, `/` and `@`; other brackets are text. A backslash makes text of a
mark. A screen without styles shows what is left when the marks are taken out.
-/

namespace Crosscheck.Console

open Crosscheck.Text

/-- Whether a character may begin a mark. -/
def opensMark (c : Char) : Bool := ('a' ≤ c && c ≤ 'z') || c == '#' || c == '/' || c == '@'

/-- The content of a mark that a text begins with, and its length with both brackets. -/
def markAt? : List Char → Option (List Char × Nat)
  | '[' :: c :: rest =>
    let body := rest.takeWhile fun d => d != '[' && d != ']'
    if opensMark c && rest[body.length]? == some ']' then some (c :: body, body.length + 3)
    else none
  | _ => none

/-- The short names of styles. -/
def styleNames : List (String × String) :=
  [("b", "bold"), ("d", "dim"), ("i", "italic"), ("u", "underline"), ("r", "reverse"),
    ("c", "conceal"), ("s", "strike"), ("uu", "underline2"), ("o", "overline")]

/-- The full name of a style. -/
def styleName (s : String) : String :=
  let name := lower (trim s)
  (styleNames.lookup name).getD name

/-- The styles in force after a mark, the latest first. There are none if the mark ends a style that
is not in force. -/
def applyMark (styles : List String) (mark : List Char) : Option (List String) :=
  let name := String.ofList (mark.takeWhile (· != '='))
  match name.toList with
  | '/' :: ended =>
    let ended := String.ofList ended
    if trim ended == "" then
      match styles with
      | [] => none
      | _ :: rest => some rest
    else if styles.contains (styleName ended) then some (styles.erase (styleName ended)) else none
  | _ => some (styleName name :: styles)

/-- Whether a character rings, moves or erases, and is left out. -/
def isControl (c : Char) : Bool := [7, 8, 11, 12, 13].contains c.toNat

/-- The text that is shown, after `passed` characters that are already read. There is none if a mark
ends a style that is not in force. -/
def shownFrom (styles : List String) : Nat → List Char → Option (List Char)
  | _, [] => some []
  | passed + 1, _ :: rest => shownFrom styles passed rest
  | 0, c :: rest =>
    let slashes := ((c :: rest).takeWhile (· == '\\')).length
    match markAt? ((c :: rest).drop slashes) with
    | some (mark, length) =>
      let shown := List.replicate (slashes / 2) '\\'
      if slashes % 2 == 1 then
        (shownFrom styles (slashes + length - 1) rest).map fun more =>
          shown ++ ('[' :: mark ++ [']']) ++ more
      else
        match applyMark styles mark with
        | none => none
        | some styles => (shownFrom styles (slashes + length - 1) rest).map (shown ++ ·)
    | none =>
      if c == '\\' && rest.head? == some '[' then shownFrom styles 0 rest
      else (shownFrom styles 0 rest).map (c :: ·)

/-- The text that is shown of a styled text. -/
def shown? (s : String) : Option (List Char) :=
  let cs := s.toList
  let text := if cs.contains '[' then shownFrom [] 0 cs else some cs
  text.map fun cs => cs.filter fun c => !isControl c

end Crosscheck.Console
