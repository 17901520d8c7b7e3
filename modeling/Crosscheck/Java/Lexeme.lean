import Crosscheck.Java.Tree
import Crosscheck.Text.IdentifierTable
/-!
# Lexemes of Java

How far one lexeme reaches. Every scanner takes the text that is left and answers how many glyphs
the longest lexeme of its class takes from the front, or `none`.

A byte that belongs to no character may stand where the class excludes characters instead of listing
them: in comments, strings and character literals.
-/

namespace Crosscheck.Java

open Crosscheck.Text

/-- A run of glyphs that satisfy the test. -/
def run (p : Glyph → Bool) (text : Glyphs) : Nat := (text.takeWhile p).length

/-- Lifts a test on characters to glyphs. -/
def on (p : Char → Bool) : Glyph → Bool
  | .char c => p c
  | .stray _ => false

/-- Whether the text begins with these characters. -/
def begins (word : String) (text : Glyphs) : Bool := (ofString word).isPrefixOf text

/-! ## Layout -/

/-- White space between lexemes. -/
def isSpace (c : Char) : Bool := (0x09 ≤ c.toNat && c.toNat ≤ 0x0D) || c == ' '

/-- A comment that runs to the end of its line. -/
def lineComment (text : Glyphs) : Option Nat :=
  if begins "//" text then some (run (fun g => g != .char '\n') text) else none

/-- The glyphs up to and including the first `*/`. -/
def toCommentEnd : Glyphs → Option Nat
  | .char '*' :: .char '/' :: _ => some 2
  | _ :: rest => (toCommentEnd rest).map (· + 1)
  | [] => none

/-- A comment between `/*` and the next `*/`. -/
def blockComment (text : Glyphs) : Option Nat :=
  if begins "/*" text then (toCommentEnd (text.drop 2)).map (· + 2) else none

/-! ## Identifiers -/

/-- Characters that start an identifier. -/
def startsIdentifier (c : Char) : Bool :=
  if c.toNat < 0x80 then c.isAlpha || c == '_' || c == '$' else inRanges identifierStarts c.toNat

/-- Characters inside an identifier. -/
def continuesIdentifier (c : Char) : Bool :=
  if c.toNat < 0x80 then c.isAlphanum || c == '_' || c == '$'
  else c.toNat == 0xA2 || inRanges identifierStarts c.toNat || inRanges identifierExtends c.toNat

/-- An identifier, or a word that is a keyword somewhere. -/
def identifier : Glyphs → Option Nat
  | .char c :: rest =>
    if startsIdentifier c then some (1 + run (on continuesIdentifier) rest) else none
  | _ => none

/-! ## Numbers

A digit group is digits with single underscores between them. -/

/-- Digits in groups that one underscore separates. -/
def grouped (digit : Char → Bool) : Glyphs → Option Nat
  | .char c :: rest =>
    if digit c then some (1 + more rest) else none
  | _ => none
where
  /-- The rest of the groups. -/
  more : Glyphs → Nat
    | .char '_' :: .char d :: rest => if digit d then 2 + more rest else 0
    | .char d :: rest => if digit d then 1 + more rest else 0
    | _ => 0

/-- Digits with runs of underscores between them. -/
def spaced : Glyphs → Nat
  | .char c :: rest =>
    if c.isDigit then 1 + spaced rest
    else if c == '_' then
      let under := run (on (· == '_')) rest
      match h : rest.drop under with
      | .char d :: more =>
        if d.isDigit then 2 + under + spaced more else 0
      | _ => 0
    else 0
  | _ => 0
termination_by text => text.length
decreasing_by
  · simp
  · have := congrArg List.length h
    simp only [List.length_drop, List.length_cons] at this ⊢
    omega

/-- `0`, or digits that do not start with it; underscores may follow the first digit. -/
def decimalDigits : Glyphs → Option Nat
  | .char '0' :: _ => some 1
  | .char c :: rest =>
    if c.isDigit then
      match rest with
      | .char '_' :: .char d :: more => if d.isDigit then some (3 + spaced more) else some 1
      | _ => some (1 + spaced rest)
    else none
  | _ => none

/-- Adds the length of an optional suffix letter. -/
def suffixed (letters : List Char) (text : Glyphs) (n : Nat) : Nat :=
  match text.drop n with
  | .char c :: _ => if letters.contains c then n + 1 else n
  | _ => n

/-- An exponent: its letter, an optional sign and digits. -/
def exponent (letters : List Char) : Glyphs → Option Nat
  | .char e :: rest =>
    if letters.contains e then
      match rest with
      | .char s :: more =>
        if s == '+' || s == '-' then (grouped Char.isDigit more).map (· + 2)
        else (grouped Char.isDigit rest).map (· + 1)
      | _ => none
    else none
  | _ => none

/-- Adds the length of an optional exponent. -/
def exponented (letters : List Char) (text : Glyphs) (n : Nat) : Nat :=
  n + (exponent letters (text.drop n)).getD 0

/-- A decimal integer. -/
def decimalInteger (text : Glyphs) : Option Nat :=
  (decimalDigits text).map (suffixed ['l', 'L'] text)

/-- Hexadecimal digits. -/
def isHexDigit (c : Char) : Bool :=
  c.isDigit || (0x41 ≤ c.toNat && c.toNat ≤ 0x46) || (0x61 ≤ c.toNat && c.toNat ≤ 0x66)

/-- Octal digits. -/
def isOctalDigit (c : Char) : Bool := 0x30 ≤ c.toNat && c.toNat ≤ 0x37

/-- A base mark, digits of the base in groups, and an optional `l`. -/
def basedInteger (marks : List String) (digit : Char → Bool) (text : Glyphs) : Option Nat :=
  (marks.filterMap fun mark =>
    if begins mark text then
      (grouped digit (text.drop mark.length)).map
        fun n => suffixed ['l', 'L'] text (mark.length + n)
    else none).max?

/-- A hexadecimal integer. -/
def hexInteger : Glyphs → Option Nat := basedInteger ["0x", "0X"] isHexDigit

/-- An octal integer. -/
def octalInteger : Glyphs → Option Nat := basedInteger ["0o", "0O", "0"] isOctalDigit

/-- A binary integer. -/
def binaryInteger : Glyphs → Option Nat := basedInteger ["0b", "0B"] fun c => c == '0' || c == '1'

/-- A decimal floating-point number: with a point, with an exponent, or with a type letter. -/
def decimalFloat (text : Glyphs) : Option Nat :=
  let letters := ['f', 'F', 'd', 'D']
  let finish (n : Nat) : Nat := suffixed letters text (exponented ['e', 'E'] text n)
  let pointed := (grouped Char.isDigit text).bind fun n =>
    match text.drop n with
    | .char '.' :: rest => some (finish (n + 1 + (grouped Char.isDigit rest).getD 0))
    | _ => none
  let bare := match text with
    | .char '.' :: rest => (grouped Char.isDigit rest).map fun n => finish (1 + n)
    | _ => none
  let raised := (decimalDigits text).bind fun n =>
    (exponent ['e', 'E'] (text.drop n)).map fun m => suffixed letters text (n + m)
  let lettered := (decimalDigits text).bind fun n =>
    if suffixed letters text n == n then none else some (n + 1)
  ([pointed, bare, raised, lettered].filterMap id).max?

/-- A hexadecimal floating-point number. -/
def hexFloat (text : Glyphs) : Option Nat :=
  if begins "0x" text || begins "0X" text then
    let rest := text.drop 2
    let whole := grouped isHexDigit rest
    let fraction (n : Nat) : Option Nat := match rest.drop n with
      | .char '.' :: more => (grouped isHexDigit more).map (n + 1 + ·)
      | _ => none
    let dotted (n : Nat) : Nat := match rest.drop n with
      | .char '.' :: _ => n + 1
      | _ => n
    let mantissa := ([fraction (whole.getD 0), whole.map dotted].filterMap id).max?
    mantissa.map fun n =>
      match exponent ['p', 'P'] (rest.drop n) with
      | some m => suffixed ['f', 'F', 'd', 'D'] text (2 + n + m)
      | none => 2 + n
  else none

/-- Number literals with the kinds of their nodes; of two equally long ones the earlier wins. -/
def numberKinds : List (String × (Glyphs → Option Nat)) :=
  [("decimal_integer_literal", decimalInteger), ("hex_integer_literal", hexInteger),
    ("octal_integer_literal", octalInteger), ("binary_integer_literal", binaryInteger),
    ("decimal_floating_point_literal", decimalFloat),
    ("hex_floating_point_literal", hexFloat)]

/-- The longest number literal. -/
def number (text : Glyphs) : Option (String × Nat) :=
  numberKinds.foldl (fun best (kind, scan) =>
    match scan text, best with
    | none, _ => best
    | some n, none => some (kind, n)
    | some n, some (_, m) => if m < n then some (kind, n) else best) none

/-! ## Characters and strings -/

/-- The inside of a character literal with its closing quote: anything but a bare quote or line
feed, with any glyph after a backslash. -/
def toQuote (inside : Bool) : Glyphs → Option Nat
  | .char '\'' :: _ => if inside then some 1 else none
  | .char '\\' :: .char '\n' :: rest => (toQuote true rest).map (· + 2)
  | .char '\\' :: _ :: rest => (toQuote true rest).map (· + 2)
  | .char '\\' :: [] => none
  | .char '\n' :: _ => none
  | _ :: rest => (toQuote true rest).map (· + 1)
  | [] => none

/-- A character literal. -/
def characterLiteral : Glyphs → Option Nat
  | .char '\'' :: rest => (toQuote false rest).map (· + 1)
  | _ => none

/-- Plain text inside a string. -/
def stringFragment (text : Glyphs) : Option Nat :=
  match run (fun g => g != .char '"' && g != .char '\\') text with
  | 0 => none
  | n => some n

/-- The rest of a piece of a text block that starts at a quote: plain text and escaped quotes. -/
def quotedRun : Glyphs → Nat
  | .char '"' :: _ => 0
  | .char '\\' :: .char '"' :: rest => 2 + quotedRun rest
  | .char '\\' :: _ => 0
  | _ :: rest => 1 + quotedRun rest
  | [] => 0

/-- A piece of a text block: plain text, or a quote that does not close the block with the text
after it. -/
def blockFragment : Glyphs → Option Nat
  | .char '"' :: rest =>
    if begins "\"\"" rest then none else some (1 + quotedRun rest)
  | text => stringFragment text

/-- An escape sequence. -/
def escapeSequence : Glyphs → Option Nat
  | .char '\\' :: g :: rest =>
    if on isOctalDigit g then some (2 + min 2 (run (on isOctalDigit) rest))
    else if g == .char 'x' then
      if (rest.take 2).all (on isHexDigit) && 2 ≤ rest.length then some 4 else none
    else if g == .char 'u' then
      match rest with
      | .char '\x7b' :: more =>
        match run (on isHexDigit) more with
        | 0 => none
        | n => if (more.drop n).head? == some (.char '\x7d') then some (4 + n) else none
      | _ => if (rest.take 4).all (on isHexDigit) && 4 ≤ rest.length then some 6 else none
    else some 2
  | _ => none

/-! ## Signs -/

/-- Everything that is written with signs alone. -/
def signs : List String :=
  ["\"\"\"", "\"", "@interface", "non-sealed", ">>>=", "...", "<<=", ">>=", ">>>", "::", "->", "==",
    ">=", "<=", "!=", "&&", "||", "++", "--", "+=", "-=", "*=", "/=", "&=", "|=", "^=", "%=", "<<",
    ">>", "(", ")", "\x7b", "\x7d", "[", "]", ";", ",", ".", "@", "=", ">", "<", "!", "~", "?", ":",
    "+", "-", "*", "/", "&", "|", "^", "%"]

/-- The longest sign the text begins with. -/
def longestSign (text : Glyphs) : Option String := signs.find? (begins · text)

end Crosscheck.Java
