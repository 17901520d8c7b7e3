import Crosscheck.Proofs.Behaviour.Lexical
/-!
# Statements

The statements that variations change, with what they are written with. An expression is known by
its words alone. A statement of any `other` kind is opaque: pieces of text with statements between
them, of which only the latter are looked into.

`Context` is a statement with a hole, innermost frame first.
-/

namespace Crosscheck.Behaviour

/-- An expression, or a declaration without its semicolon. -/
abbrev Expression := List Word

/-- What a statement goes by: an expression, no expression, or the opposite of one. -/
inductive Condition
  | given (expression : Expression)
  | always
  | negated (expression : Expression)
  deriving DecidableEq, Repr

/-- What a `for` loop begins with. -/
inductive Init
  | declaration (words : Expression)
  | expression (words : Expression)
  deriving DecidableEq, Repr

/-- The pieces of text of an opaque statement. -/
structure Pieces where
  texts : List (List Word)
  /-- Whether there is a `continue` in them. -/
  continues : Bool
  /-- Whether the statements between them are bodies, as that of a loop over a collection is. -/
  bodies : Bool
  deriving DecidableEq, Repr

/-- A statement. -/
inductive Statement
  | block (body : List Statement)
  | empty
  | expression (words : Expression)
  | declaration (words : Expression)
  | ifThen (condition : Condition) (consequence : Statement)
  | ifElse (condition : Condition) (consequence alternative : Statement)
  | forLoop (inits : List Init) (condition : Condition) (updates : List Expression)
    (body : Statement)
  | whileLoop (condition : Condition) (body : Statement)
  | doLoop (body : Statement) (condition : Condition)
  | exit (label : Option Word)
  | next (label : Option Word)
  /-- The label, and it as it is written. -/
  | labeled (label : Word) (head : List Word) (body : Statement)
  | result (expression : Option Expression)
  | other (pieces : Pieces) (parts : List Statement)

/-! ## What is written -/

/-- Words in parentheses. -/
def parenthesized (words : List Word) : List Word := [word "("] ++ words ++ [word ")"]

/-- Words with a semicolon. -/
def terminated (words : List Word) : List Word := words ++ [word ";"]

/-- The words of a condition. The one that always holds is written where it has to be. -/
def Condition.words : Condition → List Word
  | .given expression => expression
  | .always => [word "true"]
  | .negated expression => [word "!"] ++ parenthesized expression

/-- The words between the first two semicolons of a `for` loop. -/
def Condition.optionalWords : Condition → List Word
  | .always => []
  | condition => condition.words

/-- An init as a statement. -/
def Init.statement : Init → Statement
  | .declaration words => .declaration words
  | .expression words => .expression words

/-- The words of an init without a semicolon. -/
def Init.words : Init → List Word
  | .declaration words | .expression words => words

/-- Words with commas between them. -/
def separated (items : List (List Word)) : List Word := List.intercalate [word ","] items

/-- A label, if there is one. -/
def labelWords (label : Option Word) : List Word := label.toList

/-- Pieces with the words of statements between them. -/
def interleave : List (List Word) → List (List Word) → List Word
  | piece :: pieces, part :: parts => piece ++ part ++ interleave pieces parts
  | pieces, [] => pieces.flatten
  | [], parts => parts.flatten

namespace Statement

/-- The words of a statement. -/
def words : Statement → List Word
  | .block body => [word "\x7b"] ++ (wordsOf body).flatten ++ [word "\x7d"]
  | .empty => [word ";"]
  | .expression e => terminated e
  | .declaration d => terminated d
  | .ifThen c a => [word "if"] ++ parenthesized c.words ++ a.words
  | .ifElse c a b => [word "if"] ++ parenthesized c.words ++ a.words ++ [word "else"] ++ b.words
  | .forLoop inits c updates body =>
    [word "for"] ++ parenthesized (terminated (separated (inits.map Init.words))
      ++ terminated c.optionalWords ++ separated updates) ++ body.words
  | .whileLoop c body => [word "while"] ++ parenthesized c.words ++ body.words
  | .doLoop body c =>
    [word "do"] ++ body.words ++ terminated ([word "while"] ++ parenthesized c.words)
  | .exit label => terminated ([word "break"] ++ labelWords label)
  | .next label => terminated ([word "continue"] ++ labelWords label)
  | .labeled _ head body => head ++ body.words
  | .result e => terminated ([word "return"] ++ e.getD [])
  | .other pieces parts => interleave pieces.texts (wordsOf parts)
where
  /-- The words of several statements, by statement. -/
  wordsOf : List Statement → List (List Word)
    | [] => []
    | s :: rest => s.words :: wordsOf rest

/-! ## Scoping -/

/-- Whether a statement is more than a declaration. -/
def isPlain : Statement → Bool
  | .declaration _ => false
  | _ => true

/-- Whether declarations stand only where statements follow one another, never alone below another
statement. -/
def isScoped : Statement → Bool
  | .block body => areScoped body
  | .other pieces parts => areScoped parts && (!pieces.bodies || arePlain parts)
  | .ifThen _ a => a.isPlain && a.isScoped
  | .ifElse _ a b => a.isPlain && a.isScoped && b.isPlain && b.isScoped
  | .forLoop _ _ _ body | .whileLoop _ body | .doLoop body _ | .labeled _ _ body =>
    body.isPlain && body.isScoped
  | _ => true
where
  /-- Whether all of several statements are scoped. -/
  areScoped : List Statement → Bool
    | [] => true
    | s :: rest => s.isScoped && areScoped rest
  /-- Whether none of several statements is a declaration. -/
  arePlain : List Statement → Bool
    | [] => true
    | s :: rest => s.isPlain && arePlain rest

/-- Whether there is a `continue` in a statement. -/
def hasNext : Statement → Bool
  | .next _ => true
  | .block body => haveNext body
  | .other pieces parts => pieces.continues || haveNext parts
  | .ifThen _ a => a.hasNext
  | .ifElse _ a b => a.hasNext || b.hasNext
  | .forLoop _ _ _ body | .whileLoop _ body | .doLoop body _ | .labeled _ _ body => body.hasNext
  | _ => false
where
  /-- Whether there is a `continue` in one of several statements. -/
  haveNext : List Statement → Bool
    | [] => false
    | s :: rest => s.hasNext || haveNext rest

end Statement

/-! ## Contexts -/

/-- A statement with a hole in it. -/
inductive Frame
  | block (before after : List Statement)
  | other (pieces : Pieces) (before after : List Statement)
  | ifThen (condition : Condition)
  | ifElse (condition : Condition) (alternative : Statement)
  | orElse (condition : Condition) (consequence : Statement)
  | forLoop (inits : List Init) (condition : Condition) (updates : List Expression)
  | whileLoop (condition : Condition)
  | doLoop (condition : Condition)
  | labeled (label : Word) (head : List Word)

namespace Frame

/-- Fills the hole of a frame. -/
def fill : Frame → Statement → Statement
  | .block before after, s => .block (before ++ s :: after)
  | .other pieces before after, s => .other pieces (before ++ s :: after)
  | .ifThen c, s => .ifThen c s
  | .ifElse c b, s => .ifElse c s b
  | .orElse c a, s => .ifElse c a s
  | .forLoop inits c updates, s => .forLoop inits c updates s
  | .whileLoop c, s => .whileLoop c s
  | .doLoop c, s => .doLoop s c
  | .labeled label head, s => .labeled label head s

/-- Whether the hole is where the body of a loop or a branch stands. -/
def isBody : Frame → Bool
  | .block _ _ | .labeled _ _ => false
  | .other pieces _ _ => pieces.bodies
  | _ => true

end Frame

/-- Frames around a hole, the innermost first. -/
abbrev Context := List Frame

/-- Fills the hole of a context. -/
def Context.fill (context : Context) (s : Statement) : Statement :=
  context.foldl (fun s frame => frame.fill s) s

end Crosscheck.Behaviour
