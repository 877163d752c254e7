import SchemaMatch.Derive.Grammar.Type

/-!
# Reading simple declarations

Imports, constants, types and calls of macros may be declared alone or as members of others. Some
forms are kept as they are written; where one is read, this is told by no tokens.
-/

namespace SchemaMatch.Derive.Grammar

open Cursor Reader

/-- Reads something behind its attributes, which is kept as it is written with them if its reader
tells no tokens. -/
def behindAttributes (grammar : Grammar) (reader : Reader (Option (List Token))) :
    Reader (List Token) := do
  let before ← get
  let attributes ← grammar.attributeTokens
  match ← reader with
  | some tokens => return attributes ++ tokens
  | none => takenSince before

/-! ## Imports -/

/-- Reads what is imported, to a depth that the first argument bounds. Two colons may stand in front
of what stands in braces only if so told; whether any do is told. -/
def importedBounded : Nat → Bool → Reader Bool
  | 0, _ => failure
  | bound + 1, allowsRoot => do
    let tokens ← get
    if startsPunct "*" tokens then
      let _ ← punct "*"
      return false
    else if startsGroup .brace tokens then
      let elements ← inside .brace <| commaSeparated do
        let colons ← whenever (fun tokens => allowsRoot && startsPunct "::" tokens) (punct "::")
        let isRoot ← importedBounded bound (allowsRoot && colons.isEmpty)
        return isRoot || !colons.isEmpty
      return elements.any (·.value)
    else
      let _ ← nameOr ["self", "super", "crate", "try"]
      if startsPunct "::" (← get) then
        let _ ← punct "::"
        importedBounded bound false
      else
        let _ ← whenever (startsWord "as") do
          return .word (← someWord) :: [.word (← nameOr ["_"])]
        return false

/-- Reads an import. One of a root in braces is kept as it is written. -/
def importDecl : Reader (Option (List Token)) := do
  let before ← get
  let _ ← word "use"
  let colons ← optionalPunct "::"
  let isRoot ← importedBounded (Token.weightAll before) colons.isEmpty
  let _ ← punct ";"
  if isRoot then return none else return some (← takenSince before)

/-! ## Constants and types -/

structure ConstantDecl where
  hasValue : Bool
  /-- Whether it has parameters or conditions. -/
  isGeneric : Bool
  tokens : List Token

def constantDecl (grammar : Grammar) : Reader ConstantDecl := do
  let start ← inOrder [word "const", return [.word (← nameOr ["_"])]]
  let hasParameters := startsPunct "<" (← get)
  let type ← inOrder [grammar.parameterTokens, punct ":", grammar.typeTokens true]
  let value ← whenever (startsPunct "=") (inOrder [punct "=", grammar.anyExpression])
  let hasConditions := startsWord "where" (← get)
  let rest ← inOrder [grammar.conditions, punct ";"]
  return ⟨!value.isEmpty, hasParameters || hasConditions, start ++ type ++ value ++ rest⟩

/-- Where the conditions of a declared type stand. -/
inductive ConditionPlace
  | beforeDefinition
  | afterDefinition
  | either
  deriving DecidableEq, Repr

structure TypeDecl where
  hasBounds : Bool
  hasDefinition : Bool
  tokens : List Token

def typeDecl (grammar : Grammar) (place : ConditionPlace) : Reader TypeDecl := do
  let start ← inOrder [word "type", nameToken, grammar.parameterTokens]
  let hasBounds := startsPunct ":" (← get)
  let bounds ← grammar.declaredBounds fun tokens =>
    startsWord "where" tokens || startsAnyPunct ["=", ";"] tokens
  let isBefore := place != .afterDefinition && startsWord "where" (← get)
  let before ← whenever (fun _ => isBefore) grammar.conditions
  let definition ← whenever (startsPunct "=") (inOrder [punct "=", grammar.typeTokens true])
  let after ← whenever (fun _ => place != .beforeDefinition && !isBefore) grammar.conditions
  let mark ← punct ";"
  return ⟨hasBounds, !definition.isEmpty, start ++ bounds ++ before ++ definition ++ after ++ mark⟩

/-! ## Calls of macros -/

def startsMacroPath (tokens : List Token) : Bool :=
  (startsPathWord tokens && !startsWord "Self" tokens) || startsPunct "::" tokens

/-- Reads the tokens of a call of a macro, which needs a semicolon after it unless they stand in
braces. -/
def macroTokens : Reader (List Token) := do
  let tokens ← someGroup
  if endInBraces tokens then return tokens else return tokens ++ (← punct ";")

/-- Reads the call of a macro as a declaration. What is declared may have its name before the tokens
only if so told. -/
def macroDecl (named : Bool) : Reader (List Token) := do
  require startsMacroPath
  let (_, path) ← plainPath
  let mark ← punct "!"
  let name ← whenever (fun tokens => named && (startsName tokens || startsWord "try" tokens))
    (return [.word (← someWord)])
  return path ++ mark ++ name ++ (← macroTokens)

end SchemaMatch.Derive.Grammar
