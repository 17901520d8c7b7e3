import Crosscheck.Java.Grammar.Expressions
/-!
# Statements
-/

namespace Crosscheck.Java.Grammar

open Phrase

/-- An expression as a statement. -/
def expressionStatement : Phrase :=
  node "expression_statement" [use (.expression 0 true), sign ";"]

/-- Statements between braces. -/
def block : Phrase := node "block" [sign "\x7b", many (use .statement), sign "\x7d"]

/-- The types a local declaration may start with. -/
def localType (modified : Bool) : Phrase :=
  if modified then typeUnless (modifierWords ++ declarationWords)
  else typeUnless (openingWords ++ softWords)

/-- A declaration of local variables. -/
def localVariables : Phrase :=
  node "local_variable_declaration"
    [first [seq [use .modifiers, localType true], localType false], use .declarators, sign ";"]

/-- A choice between statements. An `else` belongs to the nearest `if`. -/
def ifStatement : Phrase :=
  node "if_statement"
    [word "if", playing .condition (use .parenthesized), playing .consequence (use .statement),
      optional "else" (seq [word "else", playing .alternative (use .statement)])]

/-- A loop with its condition first. -/
def whileStatement : Phrase :=
  node "while_statement"
    [word "while", playing .condition (use .parenthesized), playing .body (use .statement)]

/-- A loop with its condition last. -/
def doStatement : Phrase :=
  node "do_statement"
    [word "do", playing .body (use .statement), word "while",
      playing .condition (use .parenthesized), sign ";"]

/-- A loop with initialisation, condition and updates. -/
def forStatement : Phrase :=
  let expressions (role : Role) := commas (playing role (use (.expression 0 true)))
  node "for_statement"
    [word "for", sign "(",
      first
        [playing .init (use .localVariables), seq [maybe (expressions .init), sign ";"]],
      maybe (playing .condition (use (.expression 0 true))), sign ";",
      maybe (expressions .update), sign ")", playing .body (use .statement)]

/-- A loop over the elements of a collection. -/
def forEachStatement : Phrase :=
  node "enhanced_for_statement"
    [word "for", sign "(", maybe (use .modifiers), typeUnless (modifierWords ++ operandWords),
      declaredName, sign ":", use (.expression 0 true), sign ")",
      playing .body (use .statement)]

/-- The clauses that end a `try`. -/
def catchClause : Phrase :=
  node "catch_clause"
    [word "catch", sign "(",
      node "catch_formal_parameter"
        [maybe (use .modifiers),
          node "catch_type" [use .bareType, many (seq [sign "|", use .bareType])], declaredName],
      sign ")", playing .body (use .block)]

/-- The clause that always runs. -/
def finallyClause : Phrase := node "finally_clause" [word "finally", use .block]

/-- Clauses after a `try`: a word `catch` or `finally` after them would be another clause. -/
def clauses : Phrase :=
  first
    [seq [some1 catchClause, optional "finally" finallyClause, nothing],
      finallyClause]

/-- A `try` without resources. -/
def tryStatement : Phrase :=
  node "try_statement" [word "try", playing .body (use .block), clauses]

/-- A `try` that closes resources. -/
def tryWithResources : Phrase :=
  let resource := node "resource"
    [first
      [seq [first [seq [use .modifiers, localType true], localType false], declaredName, sign "=",
          use (.expression 0 true)],
        only ["field_access"] (use .primary), anyName]]
  node "try_with_resources_statement"
    [word "try",
      node "resource_specification"
        [sign "(", resource, many (seq [sign ";", resource]), maybe (sign ";"), sign ")"],
      playing .body (use .block), many catchClause, optional "finally" finallyClause]

/-- A pattern in a `case`. -/
def pattern : Phrase :=
  node "pattern"
    [first
      [node "type_pattern"
        [.unless (operandWords ++ softWords) (use .bareType),
          name "identifier" ["when", "instanceof"]],
        use .recordPattern]]

/-- What a branch of a `switch` is taken for. -/
def switchLabel : Phrase :=
  let stop := first [sign ":", sign "->", word "when"]
  node "switch_label"
    [first
      [seq
        [word "case",
          first [seq [pattern, ahead stop], commas (use (.expression 0 false))],
          optional "when" (node "guard" [word "when", use (.expression 0 false)])],
        word "default"]]

/-- A `switch`, as a statement or as an expression: all its branches are rules, or all of them
are groups of statements. -/
def switch : Phrase :=
  let rule := node "switch_rule"
    [switchLabel, sign "->",
      first
        [use .block, node "throw_statement" [word "throw", use (.expression 0 true), sign ";"],
          expressionStatement]]
  let group := node "switch_block_statement_group"
    [switchLabel, sign ":", many (.unless ["case"] (use .statement))]
  node "switch_expression"
    [word "switch", playing .condition (use .parenthesized),
      playing .body
        (node "switch_block"
          [sign "\x7b", first [seq [some1 rule, ahead (sign "\x7d")], many group], sign "\x7d"])]

/-- A statement that leaves the statements around it. -/
def jumps : List Phrase :=
  let label := maybe (name "identifier" [])
  [node "break_statement" [word "break", label, sign ";"],
    node "continue_statement" [word "continue", label, sign ";"],
    node "return_statement" [word "return", maybe (use (.expression 0 true)), sign ";"],
    node "throw_statement" [word "throw", use (.expression 0 true), sign ";"],
    node "yield_statement" [word "yield", use (.expression 0 true), sign ";"]]

/-- A statement. -/
def statement : Phrase :=
  first
    ([use .block, sign ";", ifStatement, whileStatement, doStatement, forEachStatement,
        forStatement, tryStatement, tryWithResources,
        node "synchronized_statement"
          [word "synchronized", use .parenthesized, playing .body (use .block)],
        node "assert_statement"
          [word "assert", use (.expression 0 true),
            maybe (seq [sign ":", use (.expression 0 true)]), sign ";"],
        use .switch]
      ++ jumps
      ++ [node "labeled_statement"
          [name "identifier" (openingWords ++ softWords ++ primitiveWords), sign ":",
            use .statement],
        use .declaration, use .localVariables,
        .unless statementWords expressionStatement])

end Crosscheck.Java.Grammar
