import SchemaMatch.Derive.Grammar.Parameter
import SchemaMatch.Derive.Grammar.Pattern

/-!
# Reading atoms

An atom is an expression without operators between operands: a literal, a path with what belongs to
it, a group, a closure, an exit, a block, or a range without a lower end.
-/

namespace SchemaMatch.Derive.Grammar

open Cursor Reader

/-! ## Expressions that may be left out -/

def startsExpression (tokens : List Token) : Bool :=
  (startsSomeWord tokens && !startsWord "as" tokens) ||
    [Delimiter.parenthesis, .bracket, .brace].any (startsGroup · tokens) ||
    startsLiteral tokens || startsLifetime tokens || startsBang tokens ||
    startsAnyPunct ["..", "::", "#"] tokens || startsArguments tokens ||
    (startsPunct "-" tokens && !startsAnyPunct ["-=", "->"] tokens) ||
    ["*", "|", "&"].any fun mark =>
      startsPunct mark tokens && !startsPunct (mark ++ "=") tokens

def optionalExpression (grammar : Grammar) : Reader (List Token) :=
  whenever startsExpression grammar.anyExpression

/-- Whether the upper end of a range that does not include it is left out. -/
def omitsUpperEnd (braces : Bool) (tokens : List Token) : Bool :=
  tokens.isEmpty || startsDot tokens || startsWord "as" tokens ||
    (!braces && startsGroup .brace tokens) ||
    startsAnyPunct
      [",", ";", "?", "=", "+", "/", "%", "^", ">", "<=", "!=", "-=", "*=", "&=", "|=", "<<="]
      tokens

def upperEnd (grammar : Grammar) (braces : Bool) : Reader (List Token) := do
  let upper := return (← grammar.expression braces .disjunction).tokens
  if startsPunct "..=" (← get) then inOrder [punct "..=", upper]
  else
    require fun tokens => !startsPunct "..." tokens
    inOrder [punct "..", whenever (fun tokens => !omitsUpperEnd braces tokens) upper]

/-! ## Records, groups and closures -/

/-- Reads the value of a field. A name alone stands for the variable of that name. -/
def fieldValue (grammar : Grammar) : Reader (List Token) := do
  let attributes ← grammar.attributeTokens
  let (isName, member) ← member
  let value ←
    if !isName || startsPunct ":" (← get) then inOrder [punct ":", grammar.anyExpression]
    else pure []
  return attributes ++ member ++ value

/-- Reads the fields of a record up to the end. Two dots may come last, with the record that has all
other fields. -/
def fieldValues (grammar : Grammar) : Reader (List Token) := do
  let elements ← commaSeparated do
    if startsPunct ".." (← get) then
      return (true, ← inOrder
        [punct "..", whenever (fun tokens => !tokens.isEmpty) grammar.anyExpression])
    else return (false, ← grammar.fieldValue)
  if elements.all fun element => !element.value.1 || !element.separated then
    return written "," (·.2) elements
  else failure

/-- Reads what a path starts: a call of a macro, a record with its fields if that is told, or the
path alone. -/
def pathExpression (grammar : Grammar) (braces : Bool) : Reader (List Token) := do
  let path ← grammar.anyPath true
  let tokens ← get
  if path.isPlain && startsBang tokens then return path.tokens ++ (← macroCall)
  else if braces && startsGroup .brace tokens then
    return path.tokens ++ (← group .brace grammar.fieldValues)
  else return path.tokens

/-- Reads a list of expressions, or one expression and how often it is repeated, up to the end. -/
def elementsOrRepeated (grammar : Grammar) : Reader (List Token) := do
  if (← get).isEmpty then return []
  let first ← grammar.anyExpression
  let tokens ← get
  if startsPunct ";" tokens then return first ++ (← inOrder [punct ";", grammar.anyExpression])
  else if tokens.isEmpty then return first
  else return first ++ (← inOrder [punct ",", commaList grammar.anyExpression])

def startsClosure (tokens : List Token) : Bool :=
  let second := afterFirst tokens
  startsPunct "|" tokens || startsAnyWord ["move", "static"] tokens ||
    (startsWord "for" tokens && startsParameters second) ||
    (startsWord "const" tokens && !startsGroup .brace second) ||
    (startsWord "async" tokens && (startsPunct "|" second || startsWord "move" second))

def closureArgument (grammar : Grammar) : Reader (List Token) := do
  let attributes ← grammar.attributeTokens
  let pattern ← grammar.pattern
  if startsPunct ":" (← get) then
    return attributes ++ pattern.tokens ++ (← inOrder [punct ":", grammar.typeTokens true])
  else if pattern.kind == .fixed then return pattern.tokens
  else return attributes ++ pattern.tokens

def closure (grammar : Grammar) (braces : Bool) : Reader (List Token) := do
  let start ← inOrder
    [grammar.optionalBinder, optionalWord "const", optionalWord "static", optionalWord "async",
      optionalWord "move", punct "|"]
  let arguments ← separated (startsPunct "|") "," grammar.closureArgument
  let bar ← punct "|"
  let body ←
    if startsPunct "->" (← get) then
      inOrder [punct "->", grammar.typeTokens true, grammar.block]
    else pure (← grammar.expression braces .loosest).tokens
  return start ++ written "," id arguments ++ bar ++ body

def startsAsyncBlock (tokens : List Token) : Bool :=
  let second := afterFirst tokens
  startsWord "async" tokens &&
    (startsGroup .brace second ||
      (startsWord "move" second && startsGroup .brace (afterFirst second)))

/-! ## Exits and conditions -/

/-- Reads an exit from a block with its label and its value. -/
def breakExpression (grammar : Grammar) (braces : Bool) : Reader (List Token) := do
  let mark ← word "break"
  let label ← optionalLifetime
  if !label.isEmpty && startsPunct ":" (← get) then failure
  let value ← whenever (fun tokens => braces || !startsGroup .brace tokens)
    grammar.optionalExpression
  return mark ++ label ++ value

/-- Reads a condition that a pattern meets a value. -/
def letExpression (grammar : Grammar) (braces : Bool) : Reader (List Token) := do
  let start ← inOrder [word "let", grammar.alternativeTokens, punct "="]
  return start ++ (← grammar.expression braces .comparison).tokens

/-! ## Expressions that end in their block -/

/-- Whether an expression that ends in its block comes first. -/
def startsBlock (tokens : List Token) : Bool :=
  let second := afterFirst tokens
  startsAnyWord ["if", "while", "loop", "match", "unsafe"] tokens ||
    (startsWord "for" tokens && !startsParameters second) ||
    (startsAnyWord ["try", "const"] tokens && startsGroup .brace second) ||
    startsGroup .brace tokens || startsLifetime tokens

def conditional (grammar : Grammar) : Reader (List Token) := do
  let branch := inOrder [word "if", grammar.headExpression, grammar.block]
  let first ← branch
  let others ← during
    (fun tokens => startsWord "else" tokens && startsWord "if" (afterFirst tokens))
    (inOrder [word "else", branch])
  let last ← whenever (startsWord "else") (inOrder [word "else", grammar.block])
  return first ++ others.flatten ++ last

/-- Reads a branch of a choice by patterns. A comma stands after its body unless that ends in its
block or is the last one. -/
def branch (grammar : Grammar) : Reader (List Token) := do
  let start ← inOrder
    [grammar.attributeTokens, grammar.alternativeTokens,
      whenever (startsWord "if") (inOrder [word "if", grammar.anyExpression]), punct "=>"]
  let body ← grammar.statementExpression
  let comma ← if body.kind == .block || (← get).isEmpty then optionalPunct "," else punct ","
  return start ++ body.tokens ++ comma

def matchExpression (grammar : Grammar) : Reader (List Token) :=
  inOrder
    [word "match", grammar.headExpression,
      grammar.attributedGroup do return (← untilEnd List.isEmpty grammar.branch).flatten]

def forLoop (grammar : Grammar) : Reader (List Token) :=
  inOrder
    [word "for", grammar.alternativeTokens, word "in", grammar.headExpression,
      grammar.attributedBlock]

def labelled (grammar : Grammar) : Reader (List Token) := do
  let tokens ← get
  if startsWord "while" tokens then
    inOrder [word "while", grammar.headExpression, grammar.attributedBlock]
  else if startsWord "for" tokens then grammar.forLoop
  else inOrder [optionalWord "loop", grammar.attributedBlock]

def blockExpression (grammar : Grammar) : Reader (List Token) := do
  let tokens ← get
  if startsWord "if" tokens then grammar.conditional
  else if startsWord "match" tokens then grammar.matchExpression
  else if startsWord "try" tokens then inOrder [word "try", grammar.block]
  else if startsWord "unsafe" tokens then inOrder [word "unsafe", grammar.attributedBlock]
  else if startsWord "const" tokens then inOrder [word "const", grammar.attributedBlock]
  else if startsLifetime tokens then inOrder [lifetime, punct ":", grammar.labelled]
  else grammar.labelled

/-! ## Atoms -/

def startsPathExpression (tokens : List Token) : Bool :=
  startsPath tokens || (startsWord "try" tokens && startsAnyPunct ["!", "::"] (afterFirst tokens))

def plainAtom (grammar : Grammar) (braces : Bool) : Reader (List Token) := do
  let tokens ← get
  if startsLiteral tokens then literal
  else if startsAsyncBlock tokens then
    inOrder [word "async", optionalWord "move", grammar.block]
  else if startsClosure tokens then grammar.closure braces
  else if startsPathExpression tokens then grammar.pathExpression braces
  else if startsGroup .parenthesis tokens then
    group .parenthesis (commaList grammar.anyExpression)
  else if startsGroup .bracket tokens then group .bracket grammar.elementsOrRepeated
  else if startsWord "break" tokens then grammar.breakExpression braces
  else if startsWord "continue" tokens then inOrder [word "continue", optionalLifetime]
  else if startsWord "return" tokens then inOrder [word "return", grammar.optionalExpression]
  else if startsWord "yield" tokens then inOrder [word "yield", grammar.optionalExpression]
  else if startsWord "let" tokens then grammar.letExpression braces
  else word "_"

def atom (grammar : Grammar) (braces : Bool) : Reader Expression := do
  let tokens ← get
  if startsPunct ".." tokens then return ⟨.range, false, ← grammar.upperEnd braces⟩
  else if startsBlock tokens then return .ofBlock (← grammar.blockExpression)
  else if startsBuiltin tokens then return .asWritten (← builtin)
  else if startsWord "become" tokens then
    return .asWritten (← asWritten (inOrder [word "become", grammar.anyExpression]))
  else return .ofTokens (← grammar.plainAtom braces)

end SchemaMatch.Derive.Grammar
