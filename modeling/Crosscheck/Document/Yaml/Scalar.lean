import Crosscheck.Document.Yaml.Cursor
/-!
# Texts of YAML scalars

Plain words, texts in quotation marks, and the literal and folded blocks. A single line end inside
the first two and inside folded blocks is a space.
-/

namespace Crosscheck.Document.Yaml

/-- What a line end and the empty lines after it stand for. -/
def foldBreaks (first : Char) (breaks : List Char) : List Char :=
  if first != '\n' then first :: breaks
  else if breaks.isEmpty then [' ']
  else breaks

namespace Scan

/-! ## Plain words -/

/-- Characters that end a plain word inside brackets. -/
def endsInFlow (c : Char) : Bool :=
  c == ',' || c == '?' || c == '[' || c == ']' || c == '\x7b' || c == '\x7d'

/-- Characters that make the colon before them a mark inside brackets. -/
def marksColon (c : Char) : Bool := c != '?' && endsInFlow c

/-- The characters up to a gap or a mark. -/
def plainWord (inFlow : Bool) : List Char → List Char
  | [] => []
  | c :: rest =>
    if isGap c || (c == ':' && rest.head?.all fun d => isGap d || (inFlow && marksColon d))
      || (inFlow && endsInFlow c) then []
    else c :: plainWord inFlow rest

/-- The empty lines inside a plain text; nothing where the document ends with them. -/
def plainBreaks : Nat → List Char → Scan (Option (List Char))
  | 0, breaks => return some breaks
  | fuel + 1, breaks => do
    let _ ← takeWhile (· == ' ')
    match ← lineBreak with
    | none => return some breaks
    | some c =>
      if (← get).meetsSeparator then return none
      else plainBreaks fuel (breaks ++ [c])

/-- What lies between two plain words, and whether it holds a line end. -/
def plainGap : Scan (List Char × Bool) := do
  let spaces ← takeWhile (· == ' ')
  match ← lineBreak with
  | none => return (spaces, false)
  | some first =>
    if (← get).meetsSeparator then return ([], true)
    else
      match ← plainBreaks (← get).rest.length [] with
      | none => return ([], true)
      | some breaks => return (foldBreaks first breaks, true)

/-- The words of a plain text after `text` and the gap that follows it. The result tells whether a
line end comes after the text. -/
def plainWords (inFlow : Bool) (indent : Int) :
    Nat → List Char → List Char → Bool → Scan (List Char × Bool)
  | 0, text, _, ended => return (text, ended)
  | fuel + 1, text, gap, ended => do
    let word := plainWord inFlow (← get).rest
    if word.isEmpty || word.head? == some '#' then return (text, ended)
    else
      advance word.length
      let text := text ++ gap ++ word
      let (gap, ended) ← plainGap
      if gap.isEmpty || (!inFlow && (← get).column < indent) then return (text, ended)
      else plainWords inFlow indent fuel text gap ended

/-- A plain text, whose lines stand at `indent` at least. -/
def plainText (inFlow : Bool) (indent : Int) : Scan (String × Bool) := do
  let (text, ended) ← plainWords inFlow indent (← get).rest.length [] [] false
  return (String.ofList text, ended)

/-! ## Texts in quotation marks -/

/-- What is being read inside quotation marks. -/
def quotedContext : String := "while scanning a quoted scalar"

/-- What is being read after a backslash. -/
def escapeContext : String := "while scanning a double-quoted scalar"

/-- What a letter after a backslash stands for. -/
def escapes : List (Char × Char) :=
  [('0', '\x00'), ('a', '\x07'), ('b', '\x08'), ('t', '\t'), ('\t', '\t'), ('n', '\n'),
    ('v', '\x0b'), ('f', '\x0c'), ('r', '\r'), ('e', '\x1b'), (' ', ' '), ('"', '"'),
    ('\\', '\\'), ('/', '/'), ('N', '\x85'), ('_', '\u00a0'), ('L', '\u2028'), ('P', '\u2029')]

/-- How many digits follow a letter that announces a code point. -/
def codeLength? (c : Char) : Option Nat :=
  if c == 'x' then some 2 else if c == 'u' then some 4 else if c == 'U' then some 8 else none

/-- The value of a hexadecimal digit. -/
def hexDigit? (c : Char) : Option Nat :=
  if c.isDigit then some (c.toNat - '0'.toNat)
  else if 'a' ≤ c && c ≤ 'f' then some (c.toNat - 'a'.toNat + 10)
  else if 'A' ≤ c && c ≤ 'F' then some (c.toNat - 'A'.toNat + 10)
  else none

/-- The number that so many hexadecimal digits write; what they belong to is called `what`. -/
def hexNumber (length : Nat) (context what : String) : Scan Nat := do
  let digits := (((← get).rest.take length).map hexDigit?).takeWhile Option.isSome
  if digits.length < length then
    let found ← foundAt digits.length
    fail context s!"expected {what} of {length} hexadecimal numbers, but found {found}"
  advance length
  return digits.foldl (fun n d => 16 * n + d.getD 0) 0

/-- The empty lines inside a text in quotation marks. -/
def quotedBreaks : Nat → List Char → Scan (List Char)
  | 0, breaks => return breaks
  | fuel + 1, breaks => do
    if (← get).meetsSeparator then fail quotedContext "found unexpected document separator"
    let _ ← takeWhile fun c => c == ' ' || c == '\t'
    match ← lineBreak with
    | none => return breaks
    | some c => quotedBreaks fuel (breaks ++ [c])

/-- The character of a code point. There are none past the last plane; half a pair of surrogates has
none of its own. -/
def codeChar (n : Nat) : Scan Char :=
  if n > 0x10FFFF then throw .unfit
  else return (if 0xD800 ≤ n && n ≤ 0xDFFF then '\uFFFD' else Char.ofNat n)

/-- What an escape stands for, after its backslash. -/
def escape : Scan (List Char) := do
  let c := (← peek).getD '\x00'
  match escapes.lookup c, codeLength? c with
  | some d, _ => advance 1; return [d]
  | none, some length => do
    advance 1
    return [← codeChar (← hexNumber length escapeContext "escape sequence")]
  | none, none =>
    if isBreak c then
      let _ ← lineBreak
      quotedBreaks (← get).rest.length []
    else fail escapeContext s!"found unknown escape character {← foundAt 0}"

/-- Characters that a run inside quotation marks stops at. -/
def stopsRun (c : Char) : Bool := c == '\'' || c == '"' || c == '\\' || isGap c

/-- The characters up to a gap or the closing mark. -/
def quotedRun (double : Bool) : Nat → List Char → Scan (List Char)
  | 0, text => return text
  | fuel + 1, text => do
    let text := text ++ (← takeWhile (!stopsRun ·))
    match (← get).rest with
    | '\'' :: '\'' :: _ =>
      if double then advance 1; quotedRun double fuel (text ++ ['\''])
      else advance 2; quotedRun double fuel (text ++ ['\''])
    | '\'' :: _ =>
      if double then advance 1; quotedRun double fuel (text ++ ['\'']) else return text
    | '"' :: _ =>
      if double then return text else advance 1; quotedRun double fuel (text ++ ['"'])
    | '\\' :: _ => do
      advance 1
      if double then quotedRun double fuel (text ++ (← escape))
      else quotedRun double fuel (text ++ ['\\'])
    | _ => return text

/-- What lies between two words inside quotation marks. -/
def quotedGap : Scan (List Char) := do
  let spaces ← takeWhile fun c => c == ' ' || c == '\t'
  match ← peek with
  | none => fail quotedContext "found unexpected end of stream"
  | some _ =>
    match ← lineBreak with
    | none => return spaces
    | some first => return foldBreaks first (← quotedBreaks (← get).rest.length [])

/-- The words up to the closing mark. -/
def quotedWords (double : Bool) : Nat → List Char → Scan (List Char)
  | 0, _ => fail quotedContext "found unexpected end of stream"
  | fuel + 1, text => do
    let text := text ++ (← quotedRun double (← get).rest.length [])
    if ← meets (· == if double then '"' else '\'') then
      advance 1
      return text
    else quotedWords double fuel (text ++ (← quotedGap))

/-- A text in quotation marks. -/
def quotedText (double : Bool) : Scan String := do
  advance 1
  return String.ofList (← quotedWords double ((← get).rest.length + 1) [])

/-! ## Blocks -/

/-- What is being read in front of a block. -/
def blockContext : String := "while scanning a block scalar"

/-- What becomes of the line ends at the end of a block. -/
inductive Chomping
  | strip
  | clip
  | keep
  deriving DecidableEq, Repr

/-- The sign that tells what becomes of the last line ends. -/
def chomping : Scan (Option Chomping) := do
  let c ← accept fun c => c == '+' || c == '-'
  return c.map fun c => if c == '+' then .keep else .strip

/-- The digit that tells how far a block is indented. -/
def indentation : Scan (Option Nat) := do
  if ← meets (· == '0') then
    fail blockContext "expected indentation indicator in the range 1-9, but found 0"
  let c ← accept Char.isDigit
  return c.map fun c => c.toNat - '0'.toNat

/-- The signs after the mark of a block, in either order. -/
def blockHeader : Scan (Chomping × Option Nat) := do
  match ← chomping with
  | some chomp =>
    let indent ← indentation
    expectBefore isSpaceOrBreak blockContext "chomping or indentation indicators"
    return (chomp, indent)
  | none =>
    let indent ← indentation
    let chomp ← if indent.isSome then chomping else pure none
    expectBefore isSpaceOrBreak blockContext "chomping or indentation indicators"
    return (chomp.getD .clip, indent)

/-- The empty lines before a block, and the widest indentation among them and the first line. -/
def leadingBreaks : Nat → List Char → Nat → Scan (List Char × Nat)
  | 0, breaks, widest => return (breaks, widest)
  | fuel + 1, breaks, widest => do
    let spaces ← takeWhile (· == ' ')
    let column := (← get).column
    let widest := if spaces.isEmpty then widest else max widest column
    match ← lineBreak with
    | none => return (breaks, widest)
    | some c => leadingBreaks fuel (breaks ++ [c]) widest

/-- Goes over the indentation of a line. -/
def skipIndent (indent : Nat) : Scan Unit := do
  let cursor ← get
  let spaces := cursor.rest.takeWhile (· == ' ')
  advance (min spaces.length (indent - cursor.column))

/-- The empty lines inside a block. -/
def blockBreaks (indent : Nat) : Nat → List Char → Scan (List Char)
  | 0, breaks => return breaks
  | fuel + 1, breaks => do
    skipIndent indent
    match ← lineBreak with
    | none => return breaks
    | some c => blockBreaks indent fuel (breaks ++ [c])

/-- Whether a line of a block begins here. -/
def atBlockLine (indent : Nat) : Scan Bool := do
  let cursor ← get
  return cursor.column == indent && !cursor.rest.isEmpty

/-- The lines of a block after `text` and the empty lines that follow it: the text, the last line
end and the empty lines after that. -/
def blockLines (folded : Bool) (indent : Nat) :
    Nat → List Char → List Char → Scan (List Char × List Char × List Char)
  | 0, text, breaks => return (text, [], breaks)
  | fuel + 1, text, breaks => do
    let indented ← meets fun c => c == ' ' || c == '\t'
    let text := text ++ breaks ++ (← takeWhile (!isBreak ·))
    let ending := (← lineBreak).toList
    let breaks ← blockBreaks indent ((← get).rest.length + 1) []
    if ← atBlockLine indent then
      let folds := folded && ending == ['\n'] && !indented
        && !(← meets fun c => c == ' ' || c == '\t')
      let joint := if !folds then ending else if breaks.isEmpty then [' '] else []
      blockLines folded indent fuel (text ++ joint) breaks
    else return (text, ending, breaks)

/-- A block inside a collection that is indented by `outer`. -/
def blockText (folded : Bool) (outer : Int) : Scan String := do
  advance 1
  let (chomp, increment) ← blockHeader
  blankLine blockContext
  let least := max 1 (outer + 1).toNat
  let fuel := (← get).rest.length + 1
  let (breaks, indent) ← match increment with
    | none => do
      let (breaks, widest) ← leadingBreaks fuel [] 0
      pure (breaks, max least widest)
    | some n => do
      let indent := least + n - 1
      pure (← blockBreaks indent fuel [], indent)
  let (text, ending, breaks) ←
    if ← atBlockLine indent then blockLines folded indent fuel [] breaks
    else pure ([], [], breaks)
  return String.ofList (match chomp with
    | .strip => text
    | .clip => text ++ ending
    | .keep => text ++ ending ++ breaks)

end Scan

end Crosscheck.Document.Yaml
