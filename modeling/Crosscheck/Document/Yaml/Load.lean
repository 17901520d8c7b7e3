import Crosscheck.Document.Yaml.Node
import Crosscheck.Document.Yaml.Scalars
/-!
# YAML documents

From the text of a YAML document to its value. Mappings may merge others into them: the merged
entries come first, and the mapping's own entries win.
-/

namespace Crosscheck.Document.Yaml

mutual

/-- The text that a node is written with. A mapping may have one under the mark `=`. -/
def textOf : Node → Option String
  | .scalar _ text => some text
  | .sequence .. => none
  | .mapping _ entries => textOfEntries entries

/-- The text under the first mark `=`. -/
def textOfEntries : List (Node × Node) → Option String
  | [] => none
  | (key, value) :: rest => if isValueMark key then textOf value else textOfEntries rest

/-- Whether a key is the mark `=`. -/
def isValueMark : Node → Bool
  | .scalar tag _ | .sequence tag _ | .mapping tag _ => tag == .value

end

/-- Whether a key is the mark `<<`. -/
def isMergeMark : Node → Bool
  | .scalar tag _ | .sequence tag _ | .mapping tag _ => tag == .merge

/-- A value that is to be a key. -/
def asKey (value : Value) : Except Failure Value :=
  if value.isKey then .ok value else .error (unplaced "found unhashable key")

mutual

/-- The value of a node. -/
def construct : Node → Except Failure Value
  | .scalar tag text => scalarValue tag text
  | .sequence tag items =>
    match tag with
    | .seq => return .list (← constructAll items)
    | .omap | .pairs => return .list (← constructPairs items)
    | _ => .error (unplaced "could not determine a constructor for the tag")
  | .mapping tag entries =>
    match tag with
    | .map => do
      let (merged, own) ← constructEntries entries
      return .map (OrderedMap.ofList (merged ++ own)).entries
    | .set => do
      let (merged, own) ← constructEntries entries
      return .set (OrderedMap.ofList (merged ++ own)).keys
    | _ =>
      match textOfEntries entries with
      | some text => scalarValue tag text
      | none => .error (unplaced "could not determine a constructor for the tag")

/-- The values of several nodes. -/
def constructAll : List Node → Except Failure (List Value)
  | [] => .ok []
  | item :: rest => return (← construct item) :: (← constructAll rest)

/-- The pairs that mappings of one entry each stand for. -/
def constructPairs : List Node → Except Failure (List Value)
  | [] => .ok []
  | .mapping _ [(key, value)] :: rest =>
    return .tuple [← construct key, ← construct value] :: (← constructPairs rest)
  | _ :: _ => .error (unplaced "expected a mapping of length 1")

/-- The entries that are merged into a mapping, and its own. -/
def constructEntries :
    List (Node × Node) → Except Failure (List (Value × Value) × List (Value × Value))
  | [] => .ok ([], [])
  | (key, value) :: rest => do
    if isMergeMark key then
      let entries ← mergedEntries value
      let (merged, own) ← constructEntries rest
      return (entries ++ merged, own)
    else
      let key ← constructKey key
      let value ← construct value
      let (merged, own) ← constructEntries rest
      return (merged, (key, value) :: own)

/-- The value of a key. The mark `=` is text there. -/
def constructKey : Node → Except Failure Value
  | .scalar tag text => scalarValue (if tag == .value then .str else tag) text >>= asKey
  | node => construct node >>= asKey

/-- The entries that a mapping, or the mappings of a list, add to the mapping around them. Those of
the first mapping of a list win. -/
def mergedEntries : Node → Except Failure (List (Value × Value))
  | .scalar .. => .error (unplaced "expected a mapping or list of mappings for merging")
  | .mapping _ entries => do
    let (merged, own) ← constructEntries entries
    return merged ++ own
  | .sequence _ items => mergedLists items

/-- The entries of mappings, from the last one to the first. -/
def mergedLists : List Node → Except Failure (List (Value × Value))
  | [] => .ok []
  | .mapping _ entries :: rest => do
    let (merged, own) ← constructEntries entries
    return (← mergedLists rest) ++ merged ++ own
  | _ :: _ => .error (unplaced "expected a mapping for merging")

end

/-- Whether a character may stand in a document. -/
def isAllowed (c : Char) : Bool :=
  let n := c.toNat
  n == 0x09 || n == 0x0A || n == 0x0D || (0x20 ≤ n && n ≤ 0x7E) || n == 0x85
    || (0xA0 ≤ n && n ≤ 0xFFFD) || 0x10000 ≤ n

/-- A complaint about a character at a place. -/
def unacceptable (c : Char) (index : Nat) : Failure :=
  unplaced (s!"unacceptable character #x{Text.hexPadded 4 c.toNat}: special characters are not "
    ++ s!"allowed\n  in \"<unicode string>\", position {index}")

/-- Fails at the first character that may not stand in a document. -/
def checkAllowed (s : String) : Except Failure Unit :=
  let allowed := s.toList.takeWhile isAllowed
  match s.toList.drop allowed.length with
  | [] => .ok ()
  | c :: _ => .error (unacceptable c allowed.length)

/-- The value of a text; null if it holds no document. -/
def parse (s : String) : Except Failure Value := do
  checkAllowed s
  match ← compose s with
  | none => return .null
  | some node => construct node

end Crosscheck.Document.Yaml
