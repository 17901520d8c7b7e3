import Crosscheck.Document.Yaml.Token
/-!
# From text to tokens

The scanner follows the indentation to tell where block collections begin and end. It also finds out
that a node is a key: whatever may be a key is remembered as a candidate, and the marks that belong
before a key are put there when its colon is met. A candidate is given up at the end of its line, or
when its colon is too far away.
-/

namespace Crosscheck.Document.Yaml

/-- A node that may turn out to be a key: where its first token stands, and whether it has to be a
key. -/
structure Candidate where
  position : Nat
  required : Bool
  mark : Mark
  deriving Repr

/-- How far the colon of a key may be away. -/
def keyReach : Nat := 1024

/-- The state of the scanner. The indentation is that of the innermost block collection, `-1`
outside of all. Each open bracket has a candidate of its own; `enclosing` holds those outside of the
innermost one. -/
structure Scanner where
  cursor : Cursor
  /-- Where the next token begins. -/
  mark : Mark
  tokens : Array Placed
  indent : Int
  indents : List Int
  keyAllowed : Bool
  candidate : Option Candidate
  enclosing : List (Option Candidate)

/-- The scanner at the start of a text. A byte order mark there is passed over. -/
def Scanner.start (s : String) : Scanner :=
  let cursor := Cursor.start s
  let cursor := if cursor.rest.head? == some '\uFEFF' then cursor.next else cursor
  ⟨cursor, cursor.mark, #[], -1, [], true, none, []⟩

/-- Whether the scanner is inside brackets. -/
def Scanner.inFlow (s : Scanner) : Bool := !s.enclosing.isEmpty

/-- A step of the scanner. -/
abbrev Scanning := StateT Scanner (Except Failure)

namespace Scanning

/-- A failure while a token is read, with the place where the token begins. -/
def withContext (mark : Mark) : Failure → Failure
  | .malformed complaint => .malformed { complaint with contextMark := some mark }
  | failure => failure

/-- Goes through the text. -/
def scan {α : Type} (action : Scan α) : Scanning α := do
  let s ← get
  match action.run s.cursor with
  | .ok (a, cursor) => set { s with cursor }; return a
  | .error failure => throw (withContext s.mark failure)

/-- A complaint about the place of the scanner. -/
def complain (cursor : Cursor) (context : Option String) (contextMark : Option Mark)
    (problem : String) : Failure :=
  .malformed ⟨context, contextMark, problem, some cursor.mark⟩

/-- Complains about a candidate that had to be a key. -/
def noColon (cursor : Cursor) (candidate : Candidate) : Failure :=
  complain cursor "while scanning a simple key" candidate.mark "could not find expected ':'"

/-- Adds a token. -/
def emit (token : Token) : Scanning Unit :=
  modify fun s => { s with tokens := s.tokens.push ⟨s.mark, token⟩ }

/-- Puts a token before the first one of a candidate. -/
def emitBefore (candidate : Candidate) (token : Token) : Scanning Unit :=
  modify fun s =>
    { s with tokens := s.tokens.insertIdxIfInBounds candidate.position ⟨candidate.mark, token⟩ }

/-- Tells whether a key may come next. -/
def allowKey (allowed : Bool) : Scanning Unit := modify fun s => { s with keyAllowed := allowed }

/-- Goes over layout and comments. After a line end outside of brackets a key may come. -/
def skipLayout : Nat → Scanning Unit
  | 0 => return
  | fuel + 1 => do
    scan do
      Scan.spaces
      if ← Scan.meets (· == '#') then
        let _ ← Scan.takeWhile (!isBreak ·)
    match ← scan Scan.lineBreak with
    | none => return
    | some _ =>
      unless (← get).inFlow do allowKey true
      skipLayout fuel

/-- Whether a candidate can no longer be a key. -/
def isStale (cursor : Cursor) (candidate : Candidate) : Bool :=
  candidate.mark.line != cursor.mark.line || cursor.mark.index - candidate.mark.index > keyReach

/-- Gives up a candidate that can no longer be a key. -/
def dropStale (cursor : Cursor) : Option Candidate → Except Failure (Option Candidate)
  | none => .ok none
  | some candidate =>
    if isStale cursor candidate then
      if candidate.required then .error (noColon cursor candidate) else .ok none
    else .ok (some candidate)

/-- Gives up those of several candidates that can no longer be keys. -/
def dropStaleAll (cursor : Cursor) (candidates : List (Option Candidate)) :
    Except Failure (List (Option Candidate)) :=
  candidates.mapM (dropStale cursor)

/-- Gives up all candidates that can no longer be keys. -/
def dropAllStale : Scanning Unit := do
  let s ← get
  let candidate ← dropStale s.cursor s.candidate
  let enclosing ← dropStaleAll s.cursor s.enclosing
  set { s with candidate, enclosing }

/-- Gives up the candidate. -/
def dropCandidate : Scanning Unit := do
  let s ← get
  match s.candidate with
  | some candidate => if candidate.required then throw (noColon s.cursor candidate)
  | none => pure ()
  set { s with candidate := none }

/-- Remembers that the next node may be a key. It has to be one where a block collection could not
go on with anything else. -/
def saveCandidate : Scanning Unit := do
  let s ← get
  if s.keyAllowed then
    dropCandidate
    let cursor := s.cursor
    let required := !s.inFlow && s.indent == cursor.column
    modify fun s => { s with
      candidate := some ⟨s.tokens.size, required, cursor.mark⟩ }

/-- Ends the block collections that are indented by more than `column`. -/
def unwindFrom (column : Int) : List Int → Scanning Unit
  | [] => return
  | outer :: indents => do
    let s ← get
    if s.indent > column then
      set { s with indent := outer, indents }
      emit .blockEnd
      unwindFrom column indents

/-- Ends block collections, but none inside brackets. -/
def unwind (column : Int) : Scanning Unit := do
  let s ← get
  unless s.inFlow do unwindFrom column s.indents

/-- Begins a block collection unless there is one at the column. -/
def indentTo (column : Nat) : Scanning Bool := do
  let s ← get
  if s.indent < column then
    set { s with indent := column, indents := s.indent :: s.indents }
    return true
  else return false

/-! ## Marks -/

/-- A mark of so many characters at the end of all blocks. -/
def documentMark (token : Token) : Scanning Unit := do
  unwind (-1)
  dropCandidate
  allowKey false
  scan (Scan.advance 3)
  emit token

/-- An opening bracket. -/
def openFlow (token : Token) : Scanning Unit := do
  saveCandidate
  modify fun s => { s with enclosing := s.candidate :: s.enclosing, candidate := none }
  allowKey true
  scan (Scan.advance 1)
  emit token

/-- A closing bracket, which may close nothing. -/
def closeFlow (token : Token) : Scanning Unit := do
  dropCandidate
  match (← get).enclosing with
  | [] => pure ()
  | candidate :: enclosing => modify fun s => { s with candidate, enclosing }
  allowKey false
  scan (Scan.advance 1)
  emit token

/-- A comma. -/
def comma : Scanning Unit := do
  allowKey true
  dropCandidate
  scan (Scan.advance 1)
  emit .comma

/-- Begins a block collection at the place of the scanner, where that is allowed. -/
def beginBlock (token : Token) (parts : String) : Scanning Unit := do
  let s ← get
  unless s.inFlow do
    unless s.keyAllowed do
      throw (complain s.cursor none none s!"{parts} are not allowed here")
    if ← indentTo s.cursor.column then emit token

/-- The dash before an item. -/
def item : Scanning Unit := do
  beginBlock .blockSequence "sequence entries"
  allowKey true
  dropCandidate
  scan (Scan.advance 1)
  emit .item

/-- The question mark before a key. -/
def key : Scanning Unit := do
  beginBlock .blockMapping "mapping keys"
  allowKey (!(← get).inFlow)
  dropCandidate
  scan (Scan.advance 1)
  emit .key

/-- The colon before a value. If there is a candidate, it is the key. -/
def value : Scanning Unit := do
  let s ← get
  match s.candidate with
  | some candidate =>
    set { s with candidate := none }
    emitBefore candidate .key
    unless s.inFlow do
      if ← indentTo candidate.mark.column then emitBefore candidate .blockMapping
    allowKey false
  | none =>
    beginBlock .blockMapping "mapping values"
    allowKey (!s.inFlow)
  scan (Scan.advance 1)
  emit .value

/-- A node that may be a key. -/
def node (action : Scan Token) : Scanning Unit := do
  saveCandidate
  allowKey false
  emit (← scan action)

/-- A plain text. After a line end behind it a key may come. -/
def plain : Scanning Unit := do
  saveCandidate
  let s ← get
  let (text, ended) ← scan (Scan.plainText s.inFlow (s.indent + 1))
  allowKey ended
  emit (.scalar text true)

/-- A block text. -/
def block (folded : Bool) : Scanning Unit := do
  allowKey true
  dropCandidate
  emit (.scalar (← scan (Scan.blockText folded (← get).indent)) false)

/-- A directive. -/
def directive : Scanning Unit := do
  unwind (-1)
  dropCandidate
  allowKey false
  emit (← scan Scan.directive)

/-- The end of the text. -/
def streamEnd : Scanning Unit := do
  unwind (-1)
  dropCandidate
  emit .streamEnd

/-- Characters that no plain text begins with. -/
def isIndicator (c : Char) : Bool := "-?:,[]\x7b\x7d#&*!|>'\"%@`".toList.contains c

/-- Whether a plain text begins with `c`, followed by `rest`. -/
def beginsPlain (inFlow : Bool) (c : Char) (rest : List Char) : Bool :=
  !(isGap c || isIndicator c)
    || (rest.head?.any (!isGap ·) && (c == '-' || (!inFlow && (c == '?' || c == ':'))))

/-- The next token. The result tells whether the text has ended. -/
def next : Scanning Bool := do
  let s ← get
  let inFlow := s.inFlow
  match s.cursor.rest with
  | [] => streamEnd; return true
  | c :: rest =>
    let gapFollows := rest.head?.all isGap
    let atMargin := s.cursor.column == 0
    if c == '%' && atMargin then directive
    else if atMargin && s.cursor.meetsMark "---" then documentMark .documentStart
    else if atMargin && s.cursor.meetsMark "..." then documentMark .documentEnd
    else if c == '[' then openFlow .flowSequence
    else if c == '\x7b' then openFlow .flowMapping
    else if c == ']' then closeFlow .flowSequenceEnd
    else if c == '\x7d' then closeFlow .flowMappingEnd
    else if c == ',' then comma
    else if c == '-' && gapFollows then item
    else if c == '?' && (inFlow || gapFollows) then key
    else if c == ':' && (inFlow || gapFollows) then value
    else if c == '*' then node (return .reference (← Scan.anchorName "while scanning an alias"))
    else if c == '&' then node (return .anchor (← Scan.anchorName "while scanning an anchor"))
    else if c == '!' then node Scan.tag
    else if c == '|' && !inFlow then block false
    else if c == '>' && !inFlow then block true
    else if c == '\'' then node (return .scalar (← Scan.quotedText false) false)
    else if c == '"' then node (return .scalar (← Scan.quotedText true) false)
    else if beginsPlain inFlow c rest then plain
    else
      throw (complain s.cursor "while scanning for the next token" none
        s!"found character {Text.quoted (String.singleton c)} that cannot start any token")
    return false

/-- Goes over layout up to the next token, and reads it. -/
def step : Scanning Bool := do
  skipLayout ((← get).cursor.rest.length + 1)
  modify fun s => { s with mark := s.cursor.mark }
  dropAllStale
  unwind (← get).cursor.column
  next

end Scanning

/-- How many of the tokens are settled: those before the first candidate that may still become a
key. -/
def settled (s : Scanner) : Nat :=
  (((s.candidate :: s.enclosing).filterMap id).filter (!Scanning.isStale s.cursor ·)).foldl
    (fun n candidate => min n candidate.position) s.tokens.size

/-- The tokens from a state of the scanner on. A failure takes the place of those that are not
settled. -/
def tokensFrom : Nat → Scanner → Array Placed
  | 0, s => s.tokens
  | fuel + 1, s =>
    match Scanning.step.run s with
    | .error failure => (s.tokens.take (settled s)).push ⟨s.mark, .broken failure⟩
    | .ok (true, s) => s.tokens
    | .ok (false, s) => tokensFrom fuel s

/-- The tokens of a text. Every step but the last goes over at least one character. -/
def tokens (s : String) : List Placed := (tokensFrom (s.length + 2) (Scanner.start s)).toList

end Crosscheck.Document.Yaml
