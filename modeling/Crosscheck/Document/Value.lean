import Crosscheck.Number.Decimal
import Crosscheck.Number.Numeral
import Crosscheck.Text.Quoted
import Crosscheck.OrderedMap
import Crosscheck.Document.Calendar
/-!
# Values of documents

What a report or a configuration file says once its notation is read: a `Value`. The module also
holds the text of a value, which is what an option set to it becomes, the values that have a text,
and the rule that says when two values are the same key.
-/

namespace Crosscheck.Document

open Crosscheck.Text

/-- The content of a document. The entries of a map stand in the order of the document. -/
inductive Value
  | null
  | bool (b : Bool)
  | int (n : Int)
  | float (x : Binary64)
  | text (s : String)
  | moment (m : Moment)
  | bytes (b : Bytes)
  | list (items : List Value)
  /-- A list of fixed length. -/
  | tuple (items : List Value)
  | set (items : List Value)
  | map (entries : List (Value × Value))
  deriving Inhabited, Repr

namespace Value

/-- The text of a truth value. -/
def ofBool (b : Bool) : String := if b then "True" else "False"

/-- How a value is written inside another one: text is quoted there. -/
def literal : Value → String
  | .null => "None"
  | .bool b => ofBool b
  | .int n => toString n
  | .float x => x.render
  | .text s => quoted s
  | .moment m => m.literal
  | .bytes b => quotedBytes b
  | .list items => "[" ++ ", ".intercalate (literals items) ++ "]"
  | .tuple [item] => "(" ++ literal item ++ ",)"
  | .tuple items => "(" ++ ", ".intercalate (literals items) ++ ")"
  | .set [] => "set()"
  | .set items => "\x7b" ++ ", ".intercalate (literals items) ++ "\x7d"
  | .map entries => "\x7b" ++ ", ".intercalate (pairs entries) ++ "\x7d"
where
  /-- The members of a sequence. -/
  literals : List Value → List String
    | [] => []
    | item :: rest => literal item :: literals rest
  /-- The entries of a map. -/
  pairs : List (Value × Value) → List String
    | [] => []
    | (key, value) :: rest => (literal key ++ ": " ++ literal value) :: pairs rest

/-- The text of a value. -/
def render : Value → String
  | .text s => s
  | .moment m => m.render
  | value => value.literal

/-- Whether a value can be written: it holds no whole number of more digits than are written. -/
def isWritable : Value → Bool
  | .int n => n.natAbs < 10 ^ digitLimit
  | .list items | .tuple items | .set items => writables items
  | .map entries => pairsWritable entries
  | _ => true
where
  /-- Whether all members can be written. -/
  writables : List Value → Bool
    | [] => true
    | item :: rest => isWritable item && writables rest
  /-- Whether all keys and values can be written. -/
  pairsWritable : List (Value × Value) → Bool
    | [] => true
    | (key, value) :: rest => isWritable key && isWritable value && pairsWritable rest

/-- The number that a value counts as. Truth values count as one and zero. -/
def number? : Value → Option Binary64
  | .bool b => some (Binary64.ofInt (if b then 1 else 0))
  | .int n => some (Binary64.ofInt n)
  | .float x => some x
  | _ => none

/-- The whole number that a value is equal to. -/
def integer? : Value → Option Int
  | .bool b => some (if b then 1 else 0)
  | .int n => some n
  | .float x => x.toInt?
  | _ => none

mutual
/-- Whether two values are the same key of a map. Numbers are the same by what they count, whatever
their kind. -/
def sameKey : Value → Value → Bool
  | .null, .null => true
  | .text s, .text t => s == t
  | .moment m, .moment n => m == n
  | .bytes b, .bytes c => b == c
  | .tuple xs, .tuple ys => sameKeys xs ys
  | .float x, .float y => x.sameValue y
  | x, y =>
    match x.integer?, y.integer? with
    | some n, some m => n == m
    | _, _ => false

/-- Whether two sequences are the same key by key. -/
def sameKeys : List Value → List Value → Bool
  | [], [] => true
  | x :: xs, y :: ys => sameKey x y && sameKeys xs ys
  | _, _ => false
end

instance : BEq Value := ⟨sameKey⟩

/-- Whether a value may be a key: lists, maps and sets may not. -/
def isKey : Value → Bool
  | .list _ | .map _ | .set _ => false
  | .tuple items => keys items
  | _ => true
where
  /-- Whether all members may be keys. -/
  keys : List Value → Bool
    | [] => true
    | item :: rest => isKey item && keys rest

/-- Whether a value says something: neither null nor false, nor zero, nor empty. -/
def isTruthy : Value → Bool
  | .null => false
  | .bool b => b
  | .int n => n != 0
  | .float x => !x.isZero
  | .text s => s != ""
  | .moment _ => true
  | .bytes b => !b.isEmpty
  | .list items | .tuple items | .set items => !items.isEmpty
  | .map entries => !entries.isEmpty

/-- The value under a text key of a map. -/
def get? (value : Value) (key : String) : Option Value :=
  match value with
  | .map entries => OrderedMap.lookup (.text key) entries
  | _ => none

/-- The value under a text key, null where there is none. -/
def getD (value : Value) (key : String) : Value := (value.get? key).getD .null

end Value

end Crosscheck.Document
