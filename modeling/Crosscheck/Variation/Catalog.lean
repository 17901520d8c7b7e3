import Crosscheck.Variation.Rule
import Crosscheck.Text.Blank
/-!
# The catalog of rules

The rules, in the order in which their mutants are numbered:

* `addBrackets` puts a single statement that is the body of another into braces;
* `loopConversion1` makes a `while` loop of a `for` loop;
* `loopConversion2` makes a `for` loop of a `while` loop;
* `wrapInIf` and `wrapInWhile` put an expression statement under a control structure that runs it
  exactly once;
* `swapBranches` negates a condition and exchanges the branches it chooses between;
* `addZero` adds zero to an integer literal.
-/

namespace Crosscheck.Variation

open Crosscheck.Text Crosscheck.Java

/-! ## Pieces of text -/

/-- Text without its first and last glyph. -/
def inside (text : Glyphs) : Glyphs := (text.drop 1).dropLast

/-- The text of a statement, as it may stand between braces. -/
def bodyText (source : Bytes) (node : Node) : Glyphs :=
  if node.kind == "block" then trimGlyphs (inside (node.text source)) else node.text source

/-- The text of a statement as a block. -/
def blockText (source : Bytes) (node : Node) : Glyphs :=
  if node.kind == "block" then node.text source
  else ofString "\x7b " ++ node.text source ++ ofString " \x7d"

/-- The text of a condition without its parentheses. -/
def conditionText (source : Bytes) (node : Node) : Glyphs :=
  if node.kind == "parenthesized_expression" then trimGlyphs (inside (node.text source))
  else node.text source

/-! ## Brackets -/

/-- The parts that a statement below another one may play, by the kind of the latter. -/
def bodyRoles : String → List Role
  | "if_statement" => [.consequence, .alternative]
  | "for_statement" | "enhanced_for_statement" | "while_statement" | "do_statement" => [.body]
  | _ => []

/-- The part a node plays as a statement below its parent. -/
def bodyRole? (parent : Option Node) (node : Node) : Option Role :=
  parent.bind fun parent => (bodyRoles parent.kind).find? (node.role == some ·)

/-- Puts a single statement that is the body of another into braces. The `if` of an `else if` stays
as it is. -/
def addBrackets : Rule where
  name := "AddBrackets"
  description := "if (c) s;  ->  if (c) \x7b s; \x7d"
  accepts parent node :=
    node.kind != "block" &&
      match bodyRole? parent node with
      | none => false
      | some role => !(role == .alternative && node.kind == "if_statement")
  replacement source node := some (ofString "\x7b " ++ node.text source ++ ofString " \x7d")

/-! ## Loops -/

/-- Kinds of statements after which the next one is reached. -/
def completingKinds : List String := ["expression_statement", "local_variable_declaration", ";"]

/-- Whether a kind is that of a comment. -/
def isComment (kind : String) : Bool := kind == "line_comment" || kind == "block_comment"

/-- Whether what is put after the statement is surely reached. -/
def completesNormally (body : Node) : Bool :=
  if body.kind != "block" then completingKinds.contains body.kind
  else
    match (body.namedChildren.filter fun node => !isComment node.kind).getLast? with
    | none => true
    | some last => completingKinds.contains last.kind

/-- Lines, each but the first after a line feed. -/
def joinLines (lines : List Glyphs) : Glyphs := List.intercalate [.char '\n'] lines

/-- A `for` loop as a `while` loop, in a block that keeps the variables of the loop in it. A loop
with a `continue` is left alone, since it would pass over the updates, and so is one whose updates
might not be reached. -/
def loopConversion1 : Rule where
  name := "LoopConversion1"
  description := "for (i; c; u) s  ->  \x7b i; while (c) \x7b s u; \x7d \x7d"
  accepts _ node :=
    node.kind == "for_statement" &&
      match node.part? .body with
      | none => false
      | some body =>
        !body.hasKind "continue_statement"
          && ((node.playing .update).isEmpty || completesNormally body)
  replacement source node :=
    (node.part? .body).map fun body =>
      let indent := List.replicate (position source node.start).column (.char ' ')
      let line (spaces text : Glyphs) : Glyphs := indent ++ spaces ++ text
      let four := ofString "    "
      let inits := (node.playing .init).map fun init =>
        let text := init.text source
        line four (if text.getLast? == some (.char ';') then text else text ++ ofString ";")
      let condition := ((node.part? .condition).map (·.text source)).getD (ofString "true")
      let statement :=
        if body.kind == "block" then [line (four ++ four) (blockText source body)]
        else if body.kind != ";" then [line (four ++ four) (bodyText source body)]
        else []
      let updates := (node.playing .update).map fun update =>
        line (four ++ four) (update.text source ++ ofString ";")
      joinLines
        ([ofString "\x7b"] ++ inits
          ++ [line four (ofString "while (" ++ condition ++ ofString ") \x7b")]
          ++ statement ++ updates
          ++ [line four (ofString "\x7d"), line [] (ofString "\x7d")])

/-- A `while` loop as a `for` loop with only a condition. -/
def loopConversion2 : Rule where
  name := "LoopConversion2"
  description := "while (c) s  ->  for (; c; ) s"
  accepts _ node := node.kind == "while_statement"
  replacement source node := do
    let condition ← node.part? .condition
    let body ← node.part? .body
    return ofString "for (; " ++ conditionText source condition ++ ofString "; ) "
      ++ body.text source

/-! ## Control structures around a statement -/

/-- Kinds of nodes that hold statements one after the other. -/
def statementContainers : List String :=
  ["block", "constructor_body", "switch_block_statement_group"]

/-- Whether a node is an expression statement among other statements. -/
def isPlainStatement (parent : Option Node) (node : Node) : Bool :=
  node.kind == "expression_statement"
    && (parent.map fun parent => statementContainers.contains parent.kind).getD false

/-- An expression statement under a condition that always holds. -/
def wrapInIf : Rule where
  name := "CFWrapperWithIfTrue"
  description := "s;  ->  if (true) \x7b s; \x7d"
  accepts := isPlainStatement
  replacement source node :=
    some (ofString "if (true) \x7b " ++ node.text source ++ ofString " \x7d")

/-- An expression statement in a loop that is left after one pass. -/
def wrapInWhile : Rule where
  name := "CFWrapperWithWhileTrue"
  description := "s;  ->  while (true) \x7b s; break; \x7d"
  accepts := isPlainStatement
  replacement source node :=
    some (ofString "while (true) \x7b " ++ node.text source ++ ofString " break; \x7d")

/-- The branches of a condition exchanged, and the condition negated. -/
def swapBranches : Rule where
  name := "SwapIfElseBranches"
  description := "if (c) a else b  ->  if (!(c)) \x7b b \x7d else \x7b a \x7d"
  accepts _ node := node.kind == "if_statement" && (node.part? .alternative).isSome
  replacement source node := do
    let condition ← node.part? .condition
    let consequence ← node.part? .consequence
    let alternative ← node.part? .alternative
    return ofString "if (!(" ++ conditionText source condition ++ ofString ")) "
      ++ blockText source alternative ++ ofString " else " ++ blockText source consequence

/-! ## Literals -/

/-- An integer literal with zero added to it. Under a minus sign a literal stays as it is: the
least integer can be written in no other way. -/
def addZero : Rule where
  name := "AddZeroToLiteral"
  description := "n  ->  (n + 0)"
  accepts parent node :=
    node.kind == "decimal_integer_literal" &&
      match parent with
      | none => true
      | some parent =>
        !(parent.kind == "unary_expression"
          && ((parent.part? .operator).map (·.kind == "-")).getD false)
  replacement source node := some (ofString "(" ++ node.text source ++ ofString " + 0)")

/-! ## The catalog -/

/-- All rules, in the order that numbers mutants. -/
def standardRules : List Rule :=
  [addBrackets, loopConversion1, loopConversion2, wrapInIf, wrapInWhile, swapBranches, addZero]

/-- Rules with distinct names, in an order of their own. -/
structure Catalog where
  rules : List Rule
  nodup : (rules.map (·.name)).Nodup

namespace Catalog

/-- The names of the rules. -/
def names (catalog : Catalog) : List String := catalog.rules.map (·.name)

/-- The rule of a name. -/
def find? (catalog : Catalog) (name : String) : Option Rule :=
  catalog.rules.find? (·.name == name)

/-- A catalog of the rules, or the first name that comes up a second time. -/
def ofRules (rules : List Rule) : Except String Catalog :=
  if h : (rules.map (·.name)).Nodup then .ok ⟨rules, h⟩
  else .error (repeated [] (rules.map (·.name)))
where
  /-- The first name that was seen before. -/
  repeated (seen : List String) : List String → String
    | [] => ""
    | name :: rest => if seen.contains name then name else repeated (name :: seen) rest

/-- The catalog of all rules. -/
def standard : Catalog := ⟨standardRules, by decide⟩

end Catalog

end Crosscheck.Variation
