import Crosscheck.Document.Toml.Literal
/-!
# Entries of TOML

Values, and the lines that give names to them. A name may be a path of several names with dots
between them; the tables on the way are made as needed.
-/

namespace Crosscheck.Document.Toml

open Crosscheck.Text

/-- The kind of a value. All items of a list are of one kind. -/
inductive Kind
  | bool
  | text
  | list
  | table
  | time
  | moment
  | int
  | float
  deriving DecidableEq, Repr

/-- A text in threefold quotation marks that goes on in the next line: the name it is given to, what
there is of it, and whether its last line end is to be left out. -/
structure Pending where
  name : String
  text : List Char
  joins : Bool

/-! ## Tables -/

/-- Works on the table that a path of names leads to, making tables where there are none. -/
def within {α : Type} (work : Value → Except Failure (Value × α)) :
    List String → Value → Except Failure (Value × α)
  | [], table => work table
  | name :: path, .map entries => do
    let old := (OrderedMap.lookup (.text name) entries).getD (.map [])
    let (new, result) ← within work path old
    return (.map (OrderedMap.mk entries |>.insert (.text name) new).entries, result)
  | _ :: _, _ => .error .notTable

/-- Gives a new name to a value in a table. -/
def define (name : String) (value : Value) : Value → Except Failure Value
  | .map entries =>
    if (OrderedMap.lookup (Value.text name) entries).isSome then .error .malformed
    else .ok (.map (entries ++ [(.text name, value)]))
  | _ => .error .malformed

/-- Whether a name is new in a table. -/
def isNew (name : String) : Value → Bool
  | .map entries => (OrderedMap.lookup (Value.text name) entries).isNone
  | _ => false

/-! ## Names -/

/-- The parts of a name: quoted ones are taken as they are, others are cut at dots. -/
def pathParts (quoted : Bool) : List (List Char) → List (List Char)
  | [] => []
  | piece :: rest =>
    (if quoted then [piece] else (split ['.'] piece).map strip) ++ pathParts (!quoted) rest

/-- A name as a path: the tables on the way, and the name in the last one. -/
def namePath (cs : List Char) : Except Failure (List String × String) :=
  if cs.contains '.' then
    let parts :=
      if cs.contains '"' || cs.contains '\'' then pathParts false (quotePieces cs)
      else split ['.'] cs
    match (parts.reverse.dropWhile (·.isEmpty)) with
    | [] => .error .cutShort
    | last :: before =>
      .ok (((before.reverse.filter (!·.isEmpty)).map String.ofList), String.ofList (strip last))
  else
    match cs with
    | [] => .error .cutShort
    | mark :: _ =>
      if (mark == '"' || mark == '\'') && cs.getLast? == some mark then do
        return ([], String.ofList (← unescape (inner cs)))
      else .ok ([], String.ofList cs)

/-! ## Lines -/

/-- Whether what follows an equals sign can be the start of a value. -/
def beginsValue (cs : List Char) : Bool :=
  match cs with
  | [] => true
  | c :: _ =>
    c == ' ' || c == '\t' || c == '\'' || c == '"' || c == '[' || c == '\x7b'
      || strip cs == "true".toList || strip cs == "false".toList
      || (doubleOf? (String.ofList cs)).isSome || (momentOf? cs).isSome || (clockOf? cs).isSome

/-- Moves the cut between name and value to later equals signs, until a value can start there. -/
def laterCut (line : List Char) : Nat → Nat → List (List Char) → Except Failure (List (List Char))
  | 0, _, _ => .error .malformed
  | fuel + 1, cuts, parts =>
    if beginsValue ((parts.getLast?).getD []) then .ok parts
    else
      let next := splitMost ['='] (cuts + 1) line
      if next.getLast? == parts.getLast? then .error .malformed
      else laterCut line fuel (cuts + 1) next

/-- The underscores are left out of what begins with a digit. -/
def joinDigits (cs : List Char) : List Char :=
  if cs.head?.any Char.isDigit then cs.filter (· != '_') else cs

/-- The name and the value of a line, and whether the value keeps to the rules for numbers. -/
def nameAndValue (line : List Char) : Except Failure (List Char × List Char × Bool) := do
  let cuts := cutsBefore ['='] line
  let parts := splitMost ['='] cuts line
  let last := (parts.getLast?).getD []
  let parts ← laterCut line (line.length + 1) cuts (parts.dropLast ++ [joinDigits last])
  return (strip (join ['='] parts.dropLast), strip ((parts.getLast?).getD []),
    keepsNumberRules last)

/-- The text that a list of texts ends with, joined as long as it does not begin with a quotation
mark. -/
def lastQuoted : Nat → List (List Char) → Except Failure (List Char)
  | 0, parts => .ok (join [','] parts)
  | fuel + 1, parts =>
    match parts.reverse with
    | last :: before :: rest =>
      if last.isEmpty then .error .cutShort
      else if beginsQuoted last then .ok last
      else lastQuoted fuel (rest.reverse ++ [before ++ ',' :: last])
    | _ => .ok (join [','] parts)

/-- Whether a list in brackets is one of texts. -/
def isTextList (cs : List Char) : Bool := beginsQuoted (strip (inner cs))

/-- The part of a value that may be an open text in threefold quotation marks. -/
def openPart (cs : List Char) : Except Failure (List Char) :=
  if cs.head? == some '[' && (strip cs).getLast? != some ']' && isTextList cs then
    let parts := split [','] (strip (cs.drop 1))
    lastQuoted parts.length parts
  else .ok cs

/-- Whether a text in threefold quotation marks is left open. -/
def isLeftOpen (cs : List Char) : Bool :=
  match cs with
  | a :: b :: c :: _ =>
    (a == '"' || a == '\'') && b == a && c == a
      && !(cs.length > 5 && (cs.reverse.take 3).all (· == a))
  | _ => false

/-- What there is of a text that goes on in the next line. -/
def pendingOf (name : String) (text : List Char) : Pending :=
  if endsEscaped text then ⟨name, text.dropLast, true⟩ else ⟨name, text ++ ['\n'], false⟩

/-! ## Lists -/

/-- Whether the same quotation mark begins and ends a text, not behind an odd number of
backslashes. -/
def isBounded (cs : List Char) : Bool :=
  match cs with
  | [] => true
  | mark :: rest => cs.getLast? == some mark && !endsEscaped rest.dropLast

/-- Whether a text is to be joined with the next one: it is not closed, or it is open in threefold
quotation marks. -/
def needsMore (cs : List Char) : Bool :=
  !isBounded cs ||
    match cs, cs.reverse with
    | a :: b :: c :: _, _ :: y :: z :: _ => a == b && a == c && y != a && z != a
    | _, _ => false

/-- Joins parts of a list of texts that were cut at commas inside of the texts. -/
def joinTexts : Nat → List (List Char) → Except Failure (List (List Char))
  | 0, parts => .ok parts
  | _, [] => .ok []
  | _, [part] => .ok [part]
  | fuel + 1, part :: next :: rest =>
    if needsMore (strip part) then
      match rest with
      | [] =>
        let joined := part ++ ',' :: next
        if needsMore (strip joined) then .error .cutShort else .ok [joined]
      | _ => joinTexts fuel ((part ++ ',' :: next) :: rest)
    else return part :: (← joinTexts fuel (next :: rest))

/-- The parts of a list of lists: cut at commas outside of brackets. -/
def splitLists (depth : Int) (part : List Char) : List Char → List (List Char)
  | [] => [part]
  | c :: rest =>
    if c == ',' && depth == 0 then part :: splitLists depth [] rest
    else
      let depth := if c == '[' then depth + 1 else if c == ']' then depth - 1 else depth
      splitLists depth (part ++ [c]) rest

/-- The place behind the brace that closes a table, from the place `i` on. -/
def tableEnd (cs : Array Char) (i depth : Nat) (inText : Bool) : Nat → Nat
  | 0 => cs.size
  | fuel + 1 =>
    if i + 1 ≥ cs.size then cs.size
    else
      let c := cs[i]?.getD ' '
      let backslashes := ((cs.toList.take i).reverse.takeWhile (· == '\\')).length
      let inText :=
        if c == '"' || c == '\'' then
          if inText && backslashes % 2 == 1 then inText else !inText
        else inText
      let depth := if !inText && c == '\x7b' then depth + 1 else depth
      if inText || c != '\x7d' then tableEnd cs (i + 1) depth inText fuel
      else if depth > 1 then tableEnd cs (i + 1) (depth - 1) inText fuel
      else i + 1

/-- The tables of a list of tables in braces, from the place `first` on. -/
def splitTables (cs : Array Char) (first depth : Nat) : Nat → List (List Char)
  | 0 => []
  | fuel + 1 =>
    let last := tableEnd cs (first + 1) depth false (cs.size + 1)
    if last ≥ cs.size then []
    else
      let between := (slice cs.toList (last + 1) (cs.size - 1)).takeWhile (· != '\x7b')
      slice cs.toList first last :: splitTables cs (last + 1 + between.length) 1 fuel

/-- The parts of a list in brackets. -/
def listParts (text : List Char) : Except Failure (List (List Char)) :=
  let cs := strip text
  let body := inner cs
  let beforeBracket := strip (body.takeWhile (· != '['))
  if !body.contains '[' || !beforeBracket.isEmpty then
    let parts :=
      if (strip body).head? == some '\x7b' then
        splitTables cs.toArray 1 (if cs[1]? == some '\x7b' then 1 else 0) cs.length
      else split [','] body
    if isTextList cs then joinTexts (2 * parts.length) parts else .ok parts
  else .ok (splitLists 0 [] body)

/-! ## Tables in braces -/

/-- Whether a text can be the value of an entry in a table in braces. -/
def endsEntry (cs : List Char) : Bool :=
  match cs.head?, cs.getLast? with
  | some first, some last =>
    (first == last && (first == '"' || first == '\'')) || first == '-' || first.isDigit
      || cs == "true".toList || cs == "false".toList || (first == '[' && last == ']')
      || (first == '\x7b' && last == '\x7d')
  | _, _ => false

/-- Joins parts of a table in braces that were cut at commas inside of values. -/
def joinEntries : Nat → List (List Char) → Except Failure (List (List Char))
  | 0, _ => .error .malformed
  | _, [] => .ok []
  | fuel + 1, part :: rest =>
    match splitOnce ['='] part with
    | none => .error .malformed
    | some (_, value) =>
      if (strip value).isEmpty then .error .cutShort
      else if endsEntry (strip value) then return part :: (← joinEntries fuel rest)
      else
        match rest with
        | [] => .error .malformed
        | next :: rest => joinEntries fuel ((part ++ ',' :: next) :: rest)

/-- The entries of a table in braces. -/
def entryParts (cs : List Char) : Except Failure (List (List Char)) :=
  match split [','] (inner cs) with
  | [part] => if (strip part).isEmpty then .ok [] else joinEntries 2 [part]
  | parts => joinEntries (2 * parts.length) parts

/-! ## Values -/

mutual

/-- A value and its kind. `strict` tells whether it keeps to the rules for numbers. -/
def value (strict : Bool) : Nat → List Char → Except Failure (Value × Kind)
  | 0, _ => .error .malformed
  | fuel + 1, cs => do
    match cs with
    | [] => throw .malformed
    | c :: _ =>
      let word := String.ofList cs
      if word == "true" then return (.bool true, .bool)
      if word == "false" then return (.bool false, .bool)
      if lower word == "true" || lower word == "false" then throw .malformed
      if c == '"' || c == '\'' then return (← quotedValue c cs, .text)
      if c == '[' then
        let items ← items none fuel (← listParts cs)
        return (.list items, .list)
      if c == '\x7b' then
        let table ← entries fuel (.map []) (← entryParts cs)
        return (table, .table)
      match clockOf? cs, momentOf? cs with
      | some clock, _ =>
        if clock.isValid then return (.moment (.clock clock), .time) else throw .malformed
      | none, some m => return (.moment m, .moment)
      | none, none =>
        if !strict then throw .malformed
        let n ← numberValue cs
        match n with
        | .float _ => return (n, .float)
        | _ => return (n, .int)

/-- The items of a list, all of one kind. Empty parts are left out. -/
def items (kind : Option Kind) : Nat → List (List Char) → Except Failure (List Value)
  | 0, _ => .error .malformed
  | _, [] => .ok []
  | fuel + 1, part :: rest => do
    let part := strip part
    if part.isEmpty then items kind fuel rest
    else
      let (item, found) ← value true fuel part
      if kind.any (· != found) then throw .malformed
      return item :: (← items (some found) fuel rest)

/-- Adds entries to a table, up to one that goes on in the next line. -/
def entries : Nat → Value → List (List Char) → Except Failure Value
  | 0, _, _ => .error .malformed
  | _, table, [] => .ok table
  | fuel + 1, table, part :: rest => do
    let (table, pending) ← line fuel table part
    if pending.isSome then return table else entries fuel table rest

/-- Adds the entry of a line to a table, unless its value goes on in the next line. -/
def line : Nat → Value → List Char → Except Failure (Value × Option Pending)
  | 0, _, _ => .error .malformed
  | fuel + 1, table, text => do
    let (name, text, strict) ← nameAndValue text
    let (path, name) ← namePath name
    within (fun table => do
      if isLeftOpen (← openPart text) then
        if isNew name table then return (table, some (pendingOf name text)) else throw .malformed
      else
        let (new, _) ← value strict fuel text
        return (← define name new table, none)) path table

end

end Crosscheck.Document.Toml
