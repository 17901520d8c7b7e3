import Crosscheck.Document.Yaml.Cursor
/-!
# Tags

The kinds of YAML nodes, and the kind that an untagged plain text is of: null, a truth value, a
number, a moment or one of the marks `<<` and `=` if it has that form, and text otherwise.
-/

namespace Crosscheck.Document.Yaml

/-- The kind of a node. -/
inductive Tag
  | null
  | bool
  | int
  | float
  | binary
  | moment
  | omap
  | pairs
  | set
  | str
  | seq
  | map
  /-- A key whose value is to be merged into the mapping around it. -/
  | merge
  /-- A key whose value stands for the mapping as a text. -/
  | value
  | unknown
  deriving DecidableEq, Repr

namespace Tag

/-- What the names of the tags below begin with. -/
def lead : String := "tag:yaml.org,2002:"

/-- The tags by name. -/
def names : List (String × Tag) :=
  [("null", .null), ("bool", .bool), ("int", .int), ("float", .float), ("binary", .binary),
    ("timestamp", .moment), ("omap", .omap), ("pairs", .pairs), ("set", .set), ("str", .str),
    ("seq", .seq), ("map", .map), ("merge", .merge), ("value", .value)]

/-- The tag that is written as a text. -/
def ofText (s : String) : Tag :=
  ((names.find? fun (name, _) => lead ++ name == s).map (·.2)).getD .unknown

/-! ## Forms of plain text -/

/-- A text without its sign. -/
def withoutSign : List Char → List Char
  | '-' :: rest => rest
  | '+' :: rest => rest
  | cs => cs

/-- Digits and underscores. -/
def isDigits (cs : List Char) : Bool := cs.all fun c => c.isDigit || c == '_'

/-- Digits and underscores after a first digit. -/
def isNumber (cs : List Char) : Bool := cs.head?.any Char.isDigit && isDigits cs

/-- Characters of a hexadecimal number. -/
def isHexChar (c : Char) : Bool :=
  c.isDigit || ('a' ≤ c && c ≤ 'f') || ('A' ≤ c && c ≤ 'F') || c == '_'

/-- The parts of a text between colons. -/
def splitColons : List Char → List (List Char)
  | [] => [[]]
  | c :: rest =>
    match splitColons rest with
    | [] => [[c]]
    | part :: parts => if c == ':' then [] :: part :: parts else (c :: part) :: parts

/-- Minutes or seconds: one digit, or two of which the first is at most five. -/
def isSixtieth : List Char → Bool
  | [d] => d.isDigit
  | [t, d] => t.isDigit && t ≤ '5' && d.isDigit
  | _ => false

/-- Whether a text has the form of a whole number: binary, octal, decimal, hexadecimal, or in base
sixty. -/
def isInt (cs : List Char) : Bool :=
  match withoutSign cs with
  | [] => false
  | ['0'] => true
  | '0' :: 'b' :: digits => !digits.isEmpty && digits.all fun c => c == '0' || c == '1' || c == '_'
  | '0' :: 'x' :: digits => !digits.isEmpty && digits.all isHexChar
  | '0' :: digits => digits.all fun c => ('0' ≤ c && c ≤ '7') || c == '_'
  | digits =>
    match splitColons digits with
    | first :: parts => isNumber first && parts.all isSixtieth
    | [] => false

/-- Whether a text is empty or a power of ten with its sign. -/
def isPower : List Char → Bool
  | [] => true
  | e :: sign :: digits =>
    (e == 'e' || e == 'E') && (sign == '-' || sign == '+') && !digits.isEmpty
      && digits.all Char.isDigit
  | _ => false

/-- Whether a text is digits and underscores with an optional power of ten. -/
def isFraction (cs : List Char) : Bool :=
  isPower (cs.dropWhile fun c => c.isDigit || c == '_')

/-- Whether a text has the form of a number with a point. -/
def isFloat (cs : List Char) : Bool :=
  let (whole, rest) := (withoutSign cs).span (· != '.')
  match rest with
  | [] => false
  | _ :: places =>
    if whole.isEmpty then
      [".inf", ".Inf", ".INF"].contains (String.ofList rest)
        || [".nan", ".NaN", ".NAN"].contains (String.ofList cs)
        || (cs.head? == some '.' && places.head?.any Char.isDigit && isFraction places)
    else
      match splitColons whole with
      | [_] => isNumber whole && isFraction places
      | first :: parts => isNumber first && parts.all isSixtieth && isDigits places
      | [] => false

/-- The parts of a day and of a time as they are written. -/
structure MomentText where
  year : List Char
  month : List Char
  day : List Char
  /-- Hour, minute, second and fraction. -/
  clock : Option (List Char × List Char × List Char × List Char)
  /-- The distance from universal time: its sign, hours and minutes. -/
  zone : Option (Option Char × List Char × List Char)

/-- The digits at the front of a text, between `least` and `most` of them, and the rest. -/
def digits? (least most : Nat) (cs : List Char) : Option (List Char × List Char) :=
  let digits := (cs.take most).takeWhile Char.isDigit
  if digits.length < least then none else some (digits, cs.drop digits.length)

/-- What follows a character at the front of a text. -/
def mark? (c : Char) : List Char → Option (List Char)
  | d :: rest => if d == c then some rest else none
  | [] => none

/-- The distance from universal time at the end of a moment. -/
def zone? (cs : List Char) : Option (Option (Option Char × List Char × List Char)) :=
  if cs.isEmpty then some none
  else
    match cs.dropWhile fun c => c == ' ' || c == '\t' with
    | ['Z'] => some (some (none, [], []))
    | sign :: rest =>
      if sign == '-' || sign == '+' then do
        let (hours, rest) ← digits? 1 2 rest
        if rest.isEmpty then some (some (some sign, hours, []))
        else
          let (minutes, rest) ← digits? 2 2 (← mark? ':' rest)
          if rest.isEmpty then some (some (some sign, hours, minutes)) else none
      else none
    | [] => none

/-- The time after a day. -/
def afterDay? (cs : List Char) : Option (List Char) :=
  match cs with
  | [] => none
  | c :: rest =>
    if c == 'T' || c == 't' then some rest
    else if c == ' ' || c == '\t' then some (rest.dropWhile fun c => c == ' ' || c == '\t')
    else none

/-- A text that has the form of a day, or of a day with a time. -/
def momentText? (cs : List Char) : Option MomentText := do
  let (year, rest) ← digits? 4 4 cs
  let (month, rest) ← digits? 1 2 (← mark? '-' rest)
  let (day, rest) ← digits? 1 2 (← mark? '-' rest)
  if rest.isEmpty then return ⟨year, month, day, none, none⟩
  let (hour, rest) ← digits? 1 2 (← afterDay? rest)
  let (minute, rest) ← digits? 2 2 (← mark? ':' rest)
  let (second, rest) ← digits? 2 2 (← mark? ':' rest)
  let (fraction, rest) := match rest with
    | '.' :: rest => rest.span Char.isDigit
    | _ => ([], rest)
  return ⟨year, month, day, some (hour, minute, second, fraction), ← zone? rest⟩

/-- Whether a plain text is a moment. A day alone has two digits for the month and for the day. -/
def isMoment (cs : List Char) : Bool :=
  match momentText? cs with
  | none => false
  | some text => text.clock.isSome || (text.month.length == 2 && text.day.length == 2)

/-- The words for null. -/
def nullWords : List String := ["", "~", "null", "Null", "NULL"]

/-- The words for truth values. -/
def boolWords : List String :=
  ["yes", "Yes", "YES", "no", "No", "NO", "true", "True", "TRUE", "false", "False", "FALSE",
    "on", "On", "ON", "off", "Off", "OFF"]

/-- The kind of an untagged plain text. -/
def ofPlain (s : String) : Tag :=
  if nullWords.contains s then .null
  else if boolWords.contains s then .bool
  else if s == "<<" then .merge
  else if s == "=" then .value
  else if ["!", "&", "*"].contains s then .unknown
  else if isFloat s.toList then .float
  else if isInt s.toList then .int
  else if isMoment s.toList then .moment
  else .str

end Tag

end Crosscheck.Document.Yaml
