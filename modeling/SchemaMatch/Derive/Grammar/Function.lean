import SchemaMatch.Derive.Grammar.Pattern
import SchemaMatch.Derive.Grammar.Type

/-!
# Reading functions

The signature of a function has a name, parameters, arguments, a type that is returned, and
conditions. The first argument may be the receiver, and the last may stand for any further ones.
-/

namespace SchemaMatch.Derive.Grammar

open Cursor Reader

inductive ArgumentKind
  | receiver
  | typed
  /-- It stands for any further ones. -/
  | further
  deriving DecidableEq, Repr

def receiver (grammar : Grammar) : Reader (List Token) := do
  let reference ← whenever (startsPunct "&") (inOrder [punct "&", optionalLifetime])
  let name ← inOrder [optionalWord "mut", word "self"]
  let type ← whenever (fun tokens => reference.isEmpty && startsPunct ":" tokens)
    (inOrder [punct ":", grammar.typeTokens true])
  return reference ++ name ++ type

/-- Reads an argument that is no receiver, behind its attributes. One that is a type alone is
written without a name. -/
def typedArgument (grammar : Grammar) : Reader (ArgumentKind × List Token) := do
  let tokens ← get
  if startsName tokens && startsPunct "<" (afterFirst tokens) then
    return (.typed, .word "_" :: Token.ofPunct ":" ++ (← grammar.typeTokens true))
  else
    let name ← inOrder [grammar.patternTokens, punct ":"]
    if startsPunct "..." (← get) then return (.further, name ++ (← punct "..."))
    else return (.typed, name ++ (← grammar.typeTokens true))

def functionArgument (grammar : Grammar) : Reader (ArgumentKind × List Token) := do
  let attributes ← grammar.attributeTokens
  let further : Reader (ArgumentKind × List Token) := return (.further, ← punct "...")
  let receiver : Reader (ArgumentKind × List Token) := return (.receiver, ← grammar.receiver)
  let (kind, tokens) ← further <|> receiver <|> grammar.typedArgument
  return (kind, attributes ++ tokens)

/-- Whether only the first argument is a receiver and only the last stands for further ones. -/
def areArguments (kinds : List ArgumentKind) : Bool :=
  !(kinds.drop 1).contains .receiver && !kinds.dropLast.contains .further

def functionArguments (grammar : Grammar) : Reader (List Token) :=
  group .parenthesis do
    let elements ← commaSeparated grammar.functionArgument
    if areArguments (elements.map (·.value.1)) then return written "," (·.2) elements
    else failure

def dropWord (text : String) (tokens : List Token) : List Token :=
  (skipWord? text tokens).getD tokens

/-- Whether a signature comes first. The word for a function that is safe to call is allowed only if
so told. -/
def startsSignature (allowsSafe : Bool) (tokens : List Token) : Bool :=
  let tokens := dropWord "async" (dropWord "const" tokens)
  let tokens :=
    if allowsSafe && startsWord "safe" tokens then afterFirst tokens else dropWord "unsafe" tokens
  let tokens :=
    match skipWord? "extern" tokens with
    | some rest => if startsString rest then afterFirst rest else rest
    | none => tokens
  startsWord "fn" tokens

def signature (grammar : Grammar) (allowsSafe : Bool) : Reader (Bool × List Token) := do
  let start ← inOrder [optionalWord "const", optionalWord "async"]
  let unsafety ← optionalWord "unsafe"
  let safety ← whenever
    (fun tokens => allowsSafe && unsafety.isEmpty && startsWord "safe" tokens) (word "safe")
  let rest ← inOrder
    [callingConvention, word "fn", nameToken, grammar.parameterTokens, grammar.functionArguments,
      grammar.returned true, grammar.conditions]
  return (!safety.isEmpty, start ++ unsafety ++ safety ++ rest)

end SchemaMatch.Derive.Grammar
