import SchemaMatch.Derive.Grammar.Expression

/-!
# Reading statements

A statement is an item, the call of a macro with braces, a variable with its value, or an
expression. A semicolon stands after an expression unless that ends in its block or comes last.
-/

namespace SchemaMatch.Derive.Grammar

open Cursor Reader

/-- What follows the path of a macro and its exclamation mark, if these come first. -/
def skipMacroMark? (tokens : List Token) : Option (List Token) :=
  match plainPath.run tokens with
  | some (_, rest) => if startsPunct "!" rest then some (afterFirst rest) else none
  | none => none

/-- Whether the call of a macro with a name comes first, which is an item. -/
def startsMacroItem (tokens : List Token) : Bool :=
  (skipMacroMark? tokens).any fun rest => startsName rest || startsWord "try" rest

/-- Whether the call of a macro with braces comes first that no access continues. -/
def startsMacroStatement (tokens : List Token) : Bool :=
  (skipMacroMark? tokens).any fun rest =>
    let after := afterFirst rest
    startsGroup .brace rest && !startsDot after && !startsPunct "?" after

def startsConstantItem (tokens : List Token) : Bool :=
  let second := afterFirst tokens
  startsWord "const" tokens && !startsGroup .brace second && !startsPunct "|" second &&
    !startsAnyWord ["static", "move"] second &&
    (!startsWord "async" second ||
      startsAnyWord ["unsafe", "extern", "fn"] (afterFirst second))

def startsItem (tokens : List Token) : Bool :=
  let second := afterFirst tokens
  startsAnyWord
      ["pub", "extern", "use", "fn", "mod", "type", "struct", "enum", "trait", "impl", "macro"]
      tokens ||
    (startsWord "crate" tokens && !startsPunct "::" second) ||
    (startsWord "static" tokens && (startsWord "mut" second || startsName second)) ||
    startsConstantItem tokens ||
    (startsWord "unsafe" tokens && !startsGroup .brace second) ||
    (startsWord "async" tokens && startsAnyWord ["unsafe", "extern", "fn"] second) ||
    (startsWord "union" tokens && startsName second) ||
    (startsWord "auto" tokens && startsWord "trait" second) ||
    (startsWord "default" tokens && startsAnyWord ["unsafe", "impl"] second) ||
    startsMacroItem tokens

/-- Reads the value of a variable, and the block that is left if the value does not fit. -/
def initialValue (grammar : Grammar) : Reader (List Token) :=
  whenever (startsPunct "=") do
    let mark ← punct "="
    let value ← grammar.anyExpression
    let otherwise ← whenever (fun tokens => !endInBraces value && startsWord "else" tokens)
      (inOrder [word "else", grammar.block])
    return mark ++ value ++ otherwise

def variableStatement (grammar : Grammar) : Reader (List Token) :=
  inOrder
    [word "let", grammar.patternTokens,
      whenever (startsPunct ":") (inOrder [punct ":", grammar.typeTokens true]),
      grammar.initialValue, punct ";"]

def expressionStatement (grammar : Grammar) (attributes : List Token) : Reader (List Token) := do
  let expression ← grammar.statementExpression
  let mark ← optionalPunct ";"
  if mark.isEmpty && expression.kind != .block && !(← get).isEmpty then failure
  return (expression.withAttributes attributes).tokens ++ mark

def statement (grammar : Grammar) : Reader (List Token) := do
  let before ← get
  if startsPunct ";" before then return ← punct ";"
  let attributes ← grammar.attributeTokens
  let tokens ← get
  if startsMacroStatement tokens then
    let path ← plainPath
    return attributes ++ path.2 ++ (← inOrder [macroCall, optionalPunct ";"])
  else if startsWord "let" tokens then return attributes ++ (← grammar.variableStatement)
  else if startsItem tokens then
    set before
    grammar.item
  else grammar.expressionStatement attributes

def readStatements (grammar : Grammar) : Reader (List Token) :=
  return (← untilEnd List.isEmpty grammar.statement).flatten

end SchemaMatch.Derive.Grammar
