import SchemaMatch.Derive.Grammar.Bound

/-!
# Reading types

A type is a path, a call of a macro, a list of bounds, or one of the forms that a word or a
punctuation character introduces. Where bounds may be joined, a path or a group in parentheses can
be the first of them.
-/

namespace SchemaMatch.Derive.Grammar

open Cursor Reader

/-- Whether the name of an argument comes first, a colon after it. -/
def startsNamed (texts : List String) (tokens : List Token) : Bool :=
  (startsName tokens || startsAnyWord texts tokens) && startsColon (afterFirst tokens)

def startsMutableReceiver (tokens : List Token) : Bool :=
  startsWord "mut" tokens && startsWord "self" (afterFirst tokens)

/-- Reads the name of an argument and the colon after it, if they come next. -/
def argumentName (texts : List String) : Reader (List Token) :=
  whenever (startsNamed texts) do return .word (← someWord) :: (← punct ":")

def mutableReceiver (grammar : Grammar) : Reader (List Token) :=
  asWritten do
    let _ ← inOrder [word "mut", word "self"]
    whenever startsColon (inOrder [punct ":", grammar.typeTokens true])

def typeOfArgument (grammar : Grammar) (isFirst : Bool) : Reader (List Token) := do
  let tokens ← get
  if isFirst && startsMutableReceiver tokens then grammar.mutableReceiver
  else
    let name ← argumentName (if isFirst then ["_", "self"] else ["_"])
    let named := name.head?.any fun
      | .word "self" => true
      | _ => false
    if isFirst && !named && startsMutableReceiver (← get) then
      return name ++ (← inOrder [word "mut", word "self"])
    else return name ++ (← grammar.typeTokens true)

/-- Whether the mark of further arguments comes first, perhaps after a name. -/
def startsFurther (tokens : List Token) : Bool :=
  startsPunct "..." tokens ||
    ((startsName tokens || startsWord "_" tokens) && startsPunct ":" (afterFirst tokens) &&
      startsPunct "..." (afterSecond tokens))

def functionTypeArgument (grammar : Grammar) (isFirst : Bool) : Reader (Bool × List Token) := do
  let attributes ← grammar.attributeTokens
  if startsFurther (← get) then
    let name ← argumentName ["_"]
    return (true, attributes ++ name ++ (← punct "..."))
  else return (false, attributes ++ (← grammar.typeOfArgument isFirst))

/-- Reads elements with commas between them up to the end, the first of them in its own way. -/
def headedList {α : Type} (element : Bool → Reader α) : Reader (List (Element α)) := do
  if (← get).isEmpty then return []
  let first ← element true
  if (← get).isEmpty then return [⟨first, false⟩]
  let _ ← punct ","
  return ⟨first, true⟩ :: (← commaSeparated (element false))

/-- Whether no argument but the last stands for further ones. -/
def furtherIsLast (elements : List (Element (Bool × List Token))) : Bool :=
  elements.dropLast.all (!·.value.1)

/-- Reads how a function is called by other languages, if that is said. -/
def callingConvention : Reader (List Token) :=
  whenever (startsWord "extern") (inOrder [word "extern", whenever startsString string])

def functionType (grammar : Grammar) : Reader (List Token) :=
  inOrder
    [optionalWord "unsafe", callingConvention, word "fn",
      group .parenthesis do
        let elements ← headedList grammar.functionTypeArgument
        if furtherIsLast elements then return written "," (·.2) elements else failure,
      grammar.returned false]

def moreBounds (grammar : Grammar) : Reader (List Token) :=
  return (← during (startsPunct "+") do
    return (← punct "+") ++ (← grammar.bound .object).tokens).flatten

/-- The first bound in a group of parentheses that may have further ones after it. -/
def enclosedBound? (type : TypeSyntax) : Option (List Token) :=
  match type.shape with
  | .path form _ _ => if form == .qualified then none else some type.tokens
  | .bound tokens => some tokens
  | .other => none

/-- What a group in parentheses holds where a type is read. -/
inductive Enclosed
  /-- A bound after a question mark. -/
  | bound (tokens : List Token)
  | single (type : TypeSyntax)
  | tuple (tokens : List Token)

def enclosed (grammar : Grammar) : Reader Enclosed := do
  let tokens ← get
  if tokens.isEmpty then return .tuple []
  else if startsLifetime tokens then
    return .single (.ofTokens (← grammar.traitList true .object))
  else if startsPunct "?" tokens then return .bound (← grammar.traitBound .object).2
  else
    let first ← grammar.type true
    if startsPunct "," (← get) then
      let comma ← punct ","
      return .tuple (first.tokens ++ comma ++ (← commaList (grammar.typeTokens true)))
    else return .single first

/-- Reads a type that starts with a group in parentheses. -/
def enclosedType (grammar : Grammar) (plus : Bool) : Reader TypeSyntax := do
  match ← inside .parenthesis grammar.enclosed with
  | .tuple tokens => return .ofTokens [.group .parenthesis tokens]
  | .bound tokens =>
    let start : List Token := [.group .parenthesis tokens]
    match ← grammar.moreBounds with
    | [] => return ⟨.bound tokens, start⟩
    | more => return .ofTokens (start ++ more)
  | .single type =>
    let isFirst := plus && startsPunct "+" (← get)
    match if isFirst then enclosedBound? type else none with
    | some tokens => return .ofTokens (.group .parenthesis tokens :: (← grammar.moreBounds))
    | none => return .ofTokens [.group .parenthesis type.tokens]

/-- Reads a type that starts with a path, which a binder may precede: the path, a call of a macro,
or bounds. -/
def pathType (grammar : Grammar) (plus : Bool) (binder : List Token) : Reader TypeSyntax := do
  let path ← grammar.anyPath false
  let tokens ← get
  if path.isQualified then return ⟨path.shape, path.tokens⟩
  else if path.isPlain && startsBang tokens then
    return .ofTokens (path.tokens ++ (← macroCall))
  else if plus && startsPunct "+" tokens then
    let mark ← punct "+"
    let more ← grammar.boundList true .object
    return .ofTokens (binder ++ path.tokens ++ mark ++ written "+" (·.tokens) more)
  else if binder.isEmpty then return ⟨path.shape, path.tokens⟩
  else return ⟨.bound (binder ++ path.tokens), binder ++ path.tokens⟩

def sequenceType (grammar : Grammar) : Reader (List Token) :=
  group .bracket (inOrder
    [grammar.typeTokens true,
      whenever (startsPunct ";") (inOrder [punct ";", grammar.anyExpression])])

def objectType (grammar : Grammar) (plus : Bool) : Reader (List Token) := do
  let before ← get
  let mark ← word "dyn"
  let star ← optionalPunct "*"
  let bounds ← grammar.traitList plus .object
  if star.isEmpty then return mark ++ bounds else takenSince before

def boundType (grammar : Grammar) (plus : Bool) : Reader TypeSyntax := do
  let before ← get
  let binder ← grammar.binder
  let tokens ← get
  if startsAnyWord ["fn", "unsafe", "extern"] tokens then
    return .ofTokens (binder ++ (← grammar.functionType))
  else if startsBuiltin tokens then
    let _ ← builtin
    return .ofTokens (← takenSince before)
  else
    require startsPathWord
    grammar.pathType plus binder

def readType (grammar : Grammar) (plus : Bool) : Reader TypeSyntax := do
  let tokens ← get
  if startsWord "for" tokens then grammar.boundType plus
  else if startsGroup .parenthesis tokens then grammar.enclosedType plus
  else if startsAnyWord ["fn", "unsafe", "extern"] tokens then
    return .ofTokens (← grammar.functionType)
  else if startsBuiltin tokens then return .ofTokens (← builtin)
  else if startsPath tokens then grammar.pathType plus []
  else if startsWord "dyn" tokens then return .ofTokens (← grammar.objectType plus)
  else if startsGroup .bracket tokens then return .ofTokens (← grammar.sequenceType)
  else if startsPunct "*" tokens then
    let kind := if startsWord "const" (afterFirst tokens) then "const" else "mut"
    return .ofTokens (← inOrder [punct "*", word kind, grammar.typeTokens false])
  else if startsPunct "&" tokens then
    return .ofTokens (← inOrder
      [punct "&", optionalLifetime, optionalWord "mut", grammar.typeTokens false])
  else if startsPunct "!" tokens then return .ofTokens (← punct "!")
  else if startsWord "impl" tokens then
    return .ofTokens (← inOrder [word "impl", grammar.traitList plus .hidden])
  else if startsWord "_" tokens then return .ofTokens (← word "_")
  else if startsLifetime tokens then return .ofTokens (← grammar.traitList true .object)
  else failure

end SchemaMatch.Derive.Grammar
