/-!
# Wildcard patterns

Patterns over file names: `*` stands for any text, `?` for any character and `[…]` for one of a set,
or with `!` for one outside it. A bracket that is not closed stands for itself.
-/

namespace Crosscheck.Files

/-- One element of a pattern. -/
inductive Wildcard
  | exactly (c : Char)
  | anyChar
  | anyText
  /-- A character in one of the ranges, or in none of them. -/
  | oneOf (outside : Bool) (ranges : List (Char × Char))
  deriving DecidableEq, Repr

namespace Wildcard

/-- The ranges that the text between brackets lists. A dash between two characters makes a range; a
range whose ends are in the wrong order holds nothing. -/
def rangesOf : List Char → List (Char × Char)
  | a :: '-' :: b :: rest => (a, b) :: rangesOf rest
  | a :: rest => (a, a) :: rangesOf rest
  | [] => []

/-- What stands between an opening bracket and the bracket that closes it, and what follows. A
closing bracket that comes first belongs to the set. -/
def bracketed (cs : List Char) : Option (Bool × List Char × List Char) :=
  let (outside, body) := match cs with
    | '!' :: rest => (true, rest)
    | _ => (false, cs)
  let (first, body) := match body with
    | ']' :: rest => ([']'], rest)
    | _ => ([], body)
  let inner := body.takeWhile (· != ']')
  match body.drop inner.length with
  | _ :: rest => some (outside, first ++ inner, rest)
  | [] => none

/-- Reads at most as many elements as the fuel says. -/
def parseFrom : Nat → List Char → List Wildcard
  | 0, _ => []
  | _, [] => []
  | fuel + 1, '*' :: rest => .anyText :: parseFrom fuel rest
  | fuel + 1, '?' :: rest => .anyChar :: parseFrom fuel rest
  | fuel + 1, '[' :: rest =>
    match bracketed rest with
    | some (outside, inner, rest) => .oneOf outside (rangesOf inner) :: parseFrom fuel rest
    | none => .exactly '[' :: parseFrom fuel rest
  | fuel + 1, c :: rest => .exactly c :: parseFrom fuel rest

/-- Reads a pattern. Every element takes at least one character. -/
def parse (pattern : String) : List Wildcard :=
  parseFrom pattern.toList.length pattern.toList

/-- Whether a character is what one element other than `anyText` stands for. -/
def accepts : Wildcard → Char → Bool
  | .exactly c, d => c == d
  | .anyChar, _ => true
  | .anyText, _ => false
  | .oneOf outside ranges, d => (ranges.any fun (a, b) => a ≤ d && d ≤ b) != outside

/-- Whether the test holds of a text or of what is left when some of its front is cut off. -/
def anySuffix (p : List Char → Bool) : List Char → Bool
  | [] => p []
  | c :: rest => p (c :: rest) || anySuffix p rest

/-- Whether a whole text is what the elements stand for. -/
def accept : List Wildcard → List Char → Bool
  | [], cs => cs.isEmpty
  | .anyText :: elements, cs => anySuffix (accept elements) cs
  | _ :: _, [] => false
  | element :: elements, c :: cs => element.accepts c && accept elements cs

/-- Whether two asterisks stand side by side, which no pattern for one name may have. -/
def isRecursive : List Char → Bool
  | '*' :: '*' :: _ => true
  | _ :: rest => isRecursive rest
  | [] => false

end Wildcard

end Crosscheck.Files
