import Crosscheck.Document.Toml.Entry
import Crosscheck.Document.Toml.Layout
/-!
# TOML documents

From the text of a TOML document to its table. Headers tell into which table the entries below them
go. A header with a path makes the tables on the way; such a table may get a header of its own
later on.
-/

namespace Crosscheck.Document.Toml

/-- A step from a table to a table inside. -/
inductive Step
  | member (name : String)
  /-- The last table of a list. -/
  | last
  deriving DecidableEq, Repr

/-- What is read so far: the whole table, the way to the table of the last header, the names of
tables that were only made on the way, and a text that goes on. -/
structure Reading where
  table : Value
  place : List Step
  implicit : List String
  pending : Option Pending

/-- Works on the value at a place. -/
def inPlace {α : Type} (work : Value → Except Failure (Value × α)) :
    List Step → Value → Except Failure (Value × α)
  | [], value => work value
  | .member name :: place, .map entries => do
    let old := (OrderedMap.lookup (.text name) entries).getD .null
    let (new, result) ← inPlace work place old
    return (.map (OrderedMap.mk entries |>.insert (.text name) new).entries, result)
  | .last :: place, .list items => do
    let (new, result) ← inPlace work place (items.getLast?.getD .null)
    return (.list (items.dropLast ++ [new]), result)
  | _, _ => .error .notTable

/-! ## Headers -/

/-- Characters of bare names in headers. -/
def isBareName (cs : List Char) : Bool :=
  !cs.isEmpty && cs.all fun c => c.isAlphanum || c == '_' || c == '-'

/-- The shortest run of parts that is closed by the quotation mark that opens it, with the parts
that follow it. -/
def quotedRun (mark : Char) (text : List Char) :
    List (List Char) → Except Failure (List Char × List (List Char))
  | [] =>
    if text.length > 1 && text.getLast? == some mark then .ok (inner text, [])
    else .error .malformed
  | next :: rest =>
    if text.length > 1 && text.getLast? == some mark then .ok (inner text, next :: rest)
    else quotedRun mark (strip (text ++ '.' :: next)) rest

/-- The names of a header, of which the quoted ones may hold dots. -/
def headerNames : Nat → List (List Char) → Except Failure (List String)
  | 0, _ => .ok []
  | _, [] => .ok []
  | fuel + 1, part :: rest => do
    let text := strip part
    match text with
    | mark :: _ =>
      if mark == '"' || mark == '\'' then
        let (name, rest) ← quotedRun mark text rest
        return String.ofList name :: (← headerNames fuel rest)
      else if isBareName text then return String.ofList text :: (← headerNames fuel rest)
      else throw .malformed
    | [] => throw .malformed

/-- The path in a header, and whether the header is that of a list of tables. -/
def header (line : List Char) : Except Failure (List String × Bool) := do
  let isArray := (line.drop 1).head? == some '['
  if line.length == 1 then throw .malformed
  let body := line.drop (if isArray then 2 else 1)
  let closing := if isArray then [']', ']'] else [']']
  let cuts := cutsBefore closing body
  let parts := splitMost closing cuts body
  if parts.length < cuts + 1 || !(strip ((parts.getLast?).getD [])).isEmpty then throw .malformed
  let parts := split ['.'] (join closing parts.dropLast)
  return (← headerNames (parts.length + 1) parts, isArray)

/-- A new table, or a list of one. -/
def fresh (inArray : Bool) : Value := if inArray then .list [.map []] else .map []

/-- Goes over from a value to the table that a header means: the last one of a list, if the header
is that of a list of tables. -/
def intoTable (isArray : Bool) (value : Value) : Except Failure (List Step) :=
  if !isArray then .ok []
  else
    match value with
    | .map _ => .ok []
    | .list [] => .error .cutShort
    | .list _ => .ok [.last]
    | _ => .error .notTable

/-- What a header makes of a member that is there. Only a table made on the way gets a header; a
list of tables grows. -/
def reopen (name : String) (isLast isArray : Bool) (implicit : List String) (old : Value) :
    Except Failure (Value × List String) :=
  if !isLast then .ok (old, implicit)
  else if implicit.contains name then
    if isArray then .error .malformed else .ok (old, implicit.erase name)
  else if !isArray then .error .malformed
  else
    match old with
    | .list items => .ok (.list (items ++ [.map []]), implicit)
    | _ => .error .notArray

/-- Opens the table of a header inside of a value: the value with the tables made on the way, the
way to the table, and the names of the tables made. -/
def openTable (isArray : Bool) : List String → List String → Value →
    Except Failure (Value × List Step × List String)
  | [], implicit, value => .ok (value, [], implicit)
  | name :: path, implicit, value => do
    if name == "" then throw .malformed
    let isLast := path.isEmpty
    match value with
    | .map entries =>
      let (member, implicit) ← match OrderedMap.lookup (.text name) entries with
        | some old => reopen name isLast isArray implicit old
        | none =>
          .ok (fresh (isLast && isArray), if isLast then implicit else implicit ++ [name])
      let (member, place, implicit) ← enter path implicit member
      return (.map (OrderedMap.mk entries |>.insert (.text name) member).entries,
        .member name :: place, implicit)
    | .list items =>
      match items.getLast? with
      | none => throw .cutShort
      | some (.map entries) =>
        let member := (OrderedMap.lookup (.text name) entries).getD (fresh (isLast && isArray))
        let (member, place, implicit) ← enter path implicit member
        let table := Value.map (OrderedMap.mk entries |>.insert (.text name) member).entries
        return (.list (items.dropLast ++ [table]), .last :: .member name :: place, implicit)
      | some _ => throw .notTable
    | _ => throw .notTable
where
  /-- Goes on in the table that a member means. -/
  enter (path implicit : List String) (member : Value) :
      Except Failure (Value × List Step × List String) := do
    match ← intoTable isArray member, member with
    | [.last], .list items =>
      let (table, place, implicit) ←
        openTable isArray path implicit (items.getLast?.getD .null)
      return (.list (items.dropLast ++ [table]), .last :: place, implicit)
    | _, _ => openTable isArray path implicit member

/-! ## Lines -/

/-- Whether a line closes the text that goes on in it. -/
def closes (text line : List Char) : Except Failure Bool :=
  match text with
  | '[' :: _ =>
    match line.getLast? with
    | none => .error .cutShort
    | some c => .ok (c == ']')
  | mark :: _ => .ok (line.length > 2 && (line.reverse.take 3).all (· == mark))
  | [] => .ok false

/-- Sets a member of the table of the last header. -/
def setMember (name : String) (value : Value) : Value → Except Failure (Value × Unit)
  | .map entries =>
    .ok (.map (OrderedMap.mk entries |>.insert (.text name) value).entries, ())
  | _ => .error .notTable

/-- A line of a text that goes on. -/
def continued (r : Reading) (pending : Pending) (line : List Char) : Except Failure Reading := do
  let text := pending.text ++ line
  if ← closes text line then
    let (new, _) ← value true (2 * text.length + 4) text
    let (table, _) ← inPlace (setMember pending.name new) r.place r.table
    return { r with table, pending := none }
  else return { r with pending := some (pendingOf pending.name text) }

/-- A line that begins something: a header or an entry. Others are passed over. -/
def begun (r : Reading) (text : List Char) : Except Failure Reading := do
  let fuel := 2 * text.length + 4
  if text.head? == some '[' then
    let (path, isArray) ← header text
    let (table, place, implicit) ← openTable isArray path r.implicit r.table
    return { r with table, place, implicit }
  else if text.head? == some '\x7b' then
    if text.getLast? != some '\x7d' then throw .malformed
    let parts ← entryParts text
    let (table, _) ← inPlace (fun t => return (← entries fuel t parts, ())) r.place r.table
    return { r with table }
  else if text.contains '=' then
    let (table, pending) ← inPlace (fun t => line fuel t text) r.place r.table
    return { r with table, pending }
  else return r

/-- A line. -/
def readLine (r : Reading) (line : List Char) : Except Failure Reading :=
  match r.pending with
  | none =>
    let text := strip line
    if text.isEmpty then .ok r else begun r text
  | some pending =>
    let text := if pending.joins || !pending.text.contains '\n' then strip line else line
    if text.isEmpty && pending.joins then .ok r else continued r pending text

/-- The table of a text. -/
def parse (s : String) : Except Failure Value := do
  let r ← (← logicalLines s).foldlM readLine ⟨.map [], [], [], none⟩
  return r.table

end Crosscheck.Document.Toml
