import Crosscheck.Document.Json
import Crosscheck.Document.Xml.NameTable
/-!
# Pieces of XML notation

Names, layout, references and quoted literals at the front of a text. Each reader gives what it read
and what is left, or nothing where the text does not begin as it should.
-/

namespace Crosscheck.Document.Xml

open Crosscheck.Document.Json

/-- Whether a code point may stand in a document. -/
def isDocumentChar (n : Nat) : Bool :=
  n == 0x9 || n == 0xA || n == 0xD || (0x20 ≤ n && n ≤ 0xD7FF) || (0xE000 ≤ n && n ≤ 0xFFFD)
    || (0x10000 ≤ n && n ≤ 0x10FFFF)

/-- Every line end as a single line feed. -/
def unifyLines : List Char → List Char
  | '\r' :: '\n' :: rest => '\n' :: unifyLines rest
  | '\r' :: rest => '\n' :: unifyLines rest
  | c :: rest => c :: unifyLines rest
  | [] => []

/-- What follows the layout at the front of a text, if there is some. -/
def layout? (cs : List Char) : Option (List Char) :=
  match cs with
  | c :: _ => if isLayout c then some (skip cs) else none
  | [] => none

/-- A name without a colon. -/
def name? (cs : List Char) : Option (List Char × List Char) :=
  match cs with
  | c :: _ => if isNameStart c then some (cs.span isNamePart) else none
  | [] => none

/-- A name that a prefix and a colon may come before. -/
structure PrefixedName where
  space : List Char
  name : List Char
  deriving DecidableEq

/-- A name with or without a prefix. -/
def prefixedName? (cs : List Char) : Option (PrefixedName × List Char) := do
  let (first, rest) ← name? cs
  match rest with
  | ':' :: rest =>
    let (second, rest) ← name? rest
    return (⟨first, second⟩, rest)
  | _ => return (⟨[], first⟩, rest)

/-- The text in front of the first place where a mark stands, and what follows the mark. -/
def before? (mark : List Char) : List Char → Option (List Char × List Char)
  | [] => none
  | c :: rest =>
    if mark.isPrefixOf (c :: rest) then some ([], (c :: rest).drop mark.length)
    else (before? mark rest).map fun (front, rest) => (c :: front, rest)

/-- A literal in quotation marks of either kind. -/
def literal? : List Char → Option (List Char × List Char)
  | '"' :: rest => before? ['"'] rest
  | '\'' :: rest => before? ['\''] rest
  | _ => none

/-- A comment, after its opening. Two dashes end it. -/
def comment? (cs : List Char) : Option (List Char) := do
  let (_, rest) ← before? ['-', '-'] cs
  match rest with
  | '>' :: rest => return rest
  | _ => none

/-- An instruction, after its opening. None is called like the declaration. -/
def instruction? (cs : List Char) : Option (List Char) := do
  let (target, rest) ← name? cs
  if target.map Char.toLower == ['x', 'm', 'l'] then none
  else
    match rest with
    | '?' :: '>' :: rest => return rest
    | c :: _ =>
      if isLayout c then
        let (_, rest) ← before? ['?', '>'] rest
        return rest
      else none
    | [] => none

/-- What an ampersand introduces. -/
inductive Reference
  | char (c : Char)
  | entity (name : List Char)

/-- The value of digits of a base, if there are any and all are digits. -/
def numeral? (base : Nat) (digits : List Char) : Option Nat := do
  if digits.isEmpty then none
  let values ← digits.mapM hexValue?
  if values.all (· < base) then return values.foldl (fun n d => base * n + d) 0 else none

/-- A reference, after its ampersand. -/
def reference? (cs : List Char) : Option (Reference × List Char) :=
  match cs with
  | '#' :: rest => do
    let (base, rest) := match rest with
      | 'x' :: rest => (16, rest)
      | _ => (10, rest)
    let (digits, rest) ← before? [';'] rest
    let n ← numeral? base digits
    if isDocumentChar n then return (.char (Char.ofNat n), rest) else none
  | _ => do
    let (name, rest) ← name? cs
    match rest with
    | ';' :: rest => return (.entity name, rest)
    | _ => none

/-- The character that a reference stands for in every document. -/
def predefined? (name : List Char) : Option Char :=
  match String.ofList name with
  | "lt" => some '<'
  | "gt" => some '>'
  | "amp" => some '&'
  | "quot" => some '"'
  | "apos" => some '\''
  | _ => none

/-! ## The declaration of a document -/

/-- What the declaration at the front of a document says. -/
structure Declaration where
  encoding : Option String
  standalone : Bool

/-- An assignment in a declaration, after layout: the name and the value. -/
def assignment? (cs : List Char) : Option (List Char × List Char × List Char) := do
  let (name, rest) := cs.span fun c => c.isAlpha
  match skip rest with
  | '=' :: rest =>
    let (value, rest) ← literal? (skip rest)
    if value.all fun c => c.isAlphanum || c == '.' || c == '-' || c == '_' then
      return (name, value, rest)
    else none
  | _ => none

/-- The assignments of a declaration, each after layout, up to its end. -/
def assignments? : Nat → List Char → Option (List (String × List Char) × List Char)
  | 0, _ => none
  | fuel + 1, cs =>
    match skip cs with
    | '?' :: '>' :: rest => some ([], rest)
    | _ => do
      let cs ← layout? cs
      let (name, value, rest) ← assignment? cs
      let (more, rest) ← assignments? fuel rest
      return ((String.ofList name, value) :: more, rest)

/-- A declaration, after its opening: the version, then the encoding and whether the document stands
alone, each of them or not. -/
def declaration? (cs : List Char) : Option (Declaration × List Char) := do
  let (given, rest) ← assignments? (cs.length + 1) cs
  let given ← match given with
    | ("version", _) :: given => some given
    | _ => none
  let (encoding, given) ← match given with
    | ("encoding", value) :: given =>
      if (value.head?.map Char.isAlpha).getD false then some (some (String.ofList value), given)
      else none
    | given => some (none, given)
  match given with
  | [] => return (⟨encoding, false⟩, rest)
  | [("standalone", value)] =>
    if value == ['y', 'e', 's'] then return (⟨encoding, true⟩, rest)
    else if value == ['n', 'o'] then return (⟨encoding, false⟩, rest)
    else none
  | _ => none

end Crosscheck.Document.Xml
