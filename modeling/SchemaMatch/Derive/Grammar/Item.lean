import SchemaMatch.Derive.Grammar.Declaration
import SchemaMatch.Derive.Grammar.Field
import SchemaMatch.Derive.Grammar.Function

/-!
# Reading items

An item declares something: a function, a type, a trait, what a trait is for a type, or names in a
place of their own. Forms that only a later step may refuse are read and kept as they are written;
their readers tell no tokens.
-/

namespace SchemaMatch.Derive.Grammar

open Cursor Reader

/-! ## Functions and variables -/

def functionItem (grammar : Grammar) : Reader (Option (List Token)) := do
  let (_, signature) ← grammar.signature false
  if startsPunct ";" (← get) then
    let _ ← punct ";"
    return none
  else return some (signature ++ (← grammar.attributedBlock))

/-- Reads a variable that lives as long as the program. One without a type or a value is kept as it
is written. -/
def staticItem (grammar : Grammar) : Reader (Option (List Token)) := do
  let start ← inOrder [word "static", optionalWord "mut", nameToken]
  let type ← whenever (fun tokens => !startsPunct "=" tokens)
    (inOrder [punct ":", grammar.typeTokens true])
  let value ← whenever (fun tokens => type.isEmpty || !startsPunct ";" tokens)
    (inOrder [punct "=", grammar.anyExpression])
  let mark ← punct ";"
  return if type.isEmpty || value.isEmpty then none else some (start ++ type ++ value ++ mark)

/-! ## Members of traits and of what they are for a type -/

def traitMember (grammar : Grammar) : Reader (Option (List Token)) := do
  let modifiers ← inOrder [visibility, optionalWord "default"]
  let tokens ← get
  let member ←
    if startsSignature false tokens then
      let (_, signature) ← grammar.signature false
      let body ← if startsPunct ";" (← get) then punct ";" else grammar.attributedBlock
      pure (some (signature ++ body))
    else if startsWord "const" tokens then
      let constant ← grammar.constantDecl
      pure (if constant.isGeneric then none else some constant.tokens)
    else if startsWord "type" tokens then
      pure (some (← grammar.typeDecl .afterDefinition).tokens)
    else if modifiers.isEmpty then pure (some (← macroDecl false))
    else failure
  return if modifiers.isEmpty then member else none

/-- Reads a member of what a trait is for a type, or of a type. -/
def implMember (grammar : Grammar) : Reader (Option (List Token)) := do
  let visibility ← visibility
  let default ← whenever
    (fun tokens => startsWord "default" tokens && !startsPunct "!" (afterFirst tokens))
    (word "default")
  let modifiers := visibility ++ default
  let tokens ← get
  if startsSignature false tokens then
    return (← grammar.functionItem).map (modifiers ++ ·)
  else if startsWord "const" tokens then
    let constant ← grammar.constantDecl
    if constant.hasValue && !constant.isGeneric then return some (modifiers ++ constant.tokens)
    else return none
  else if startsWord "type" tokens then
    let type ← grammar.typeDecl .afterDefinition
    if type.hasDefinition && !type.hasBounds then return some (modifiers ++ type.tokens)
    else return none
  else if modifiers.isEmpty then return some (← macroDecl false)
  else failure

/-- Reads a group of members with attributes inside in front of them. -/
def members (grammar : Grammar) (member : Reader (Option (List Token))) : Reader (List Token) :=
  grammar.attributedGroup
    (return (← untilEnd List.isEmpty (grammar.behindAttributes member)).flatten)

/-! ## Traits -/

def traitBody (grammar : Grammar) : Reader (List Token) := do
  let bounds ← whenever (startsPunct ":") do
    let colon ← punct ":"
    let bounds ← separated
      (fun tokens => startsWord "where" tokens || startsGroup .brace tokens) "+"
      (grammar.bound .declaration)
    return if bounds.isEmpty then [] else colon ++ written "+" (·.tokens) bounds
  return bounds ++ (← inOrder [grammar.conditions, grammar.members grammar.traitMember])

def traitAlias (grammar : Grammar) : Reader (List Token) := do
  let mark ← punct "="
  let bounds ← separated
    (fun tokens => startsWord "where" tokens || startsPunct ";" tokens) "+"
    (grammar.bound .object)
  return mark ++ written "+" (·.tokens) bounds ++ (← inOrder [grammar.conditions, punct ";"])

def traitItem (grammar : Grammar) : Reader (List Token) := do
  let modifiers ← inOrder [optionalWord "unsafe", optionalWord "auto"]
  let start ← inOrder [word "trait", nameToken, grammar.parameterTokens]
  let rest ←
    if modifiers.isEmpty && startsPunct "=" (← get) then grammar.traitAlias
    else grammar.traitBody
  return modifiers ++ start ++ rest

def constantImplMark : Reader (List Token) :=
  whenever
    (fun tokens => startsWord "const" tokens ||
      (startsPunct "?" tokens && startsWord "const" (afterFirst tokens)))
    (inOrder [optionalPunct "?", word "const"])

def isTrait (type : TypeSyntax) : Bool :=
  match type.shape with
  | .path form _ _ => form != .qualified
  | _ => false

/-- Reads what a trait is for a type, or what belongs to a type. A type alone cannot be negated. -/
def implItem (grammar : Grammar) (isVisible : Bool) : Reader (Option (List Token)) := do
  let start ← inOrder
    [optionalWord "default", optionalWord "unsafe", word "impl",
      whenever startsParameters grammar.parameterTokens]
  let constant ← constantImplMark
  let negation ← whenever
    (fun tokens => startsPunct "!" tokens && !startsGroup .brace (afterFirst tokens)) (punct "!")
  let type ← grammar.type true
  let target ← whenever (startsWord "for") (inOrder [word "for", grammar.typeTokens true])
  if target.isEmpty && !negation.isEmpty then failure
  let rest ← inOrder [grammar.conditions, grammar.members grammar.implMember]
  if isVisible || !constant.isEmpty || (!target.isEmpty && !isTrait type) then return none
  else return some (start ++ negation ++ type.tokens ++ target ++ rest)

/-! ## What other languages define -/

def foreignMember (grammar : Grammar) : Reader (Option (List Token)) := do
  let visibility ← visibility
  let tokens ← get
  if startsSignature true tokens then
    let (isSafe, signature) ← grammar.signature true
    if startsGroup .brace (← get) then
      let _ ← grammar.attributedBlock
      return none
    else
      let mark ← punct ";"
      return if isSafe then none else some (visibility ++ signature ++ mark)
  else if startsWord "static" tokens ||
      (startsAnyWord ["unsafe", "safe"] tokens && startsWord "static" (afterFirst tokens)) then
    let safety ← whenever (startsAnyWord ["unsafe", "safe"]) (return [.word (← someWord)])
    let start ← inOrder
      [word "static", optionalWord "mut", nameToken, punct ":", grammar.typeTokens true]
    let value ← whenever (startsPunct "=") (inOrder [punct "=", grammar.anyExpression])
    let mark ← punct ";"
    return if safety.isEmpty && value.isEmpty then some (visibility ++ start ++ mark) else none
  else if startsWord "type" tokens then
    let type ← grammar.typeDecl .either
    return if type.hasBounds || type.hasDefinition then none else some (visibility ++ type.tokens)
  else if visibility.isEmpty then return some (← macroDecl false)
  else failure

def foreignItem (grammar : Grammar) : Reader (List Token) :=
  inOrder
    [optionalWord "unsafe", word "extern", whenever startsString string,
      grammar.members grammar.foreignMember]

/-- Reads the use of another library, which may get a name here. -/
def libraryItem : Reader (List Token) :=
  inOrder
    [word "extern", word "crate", return [.word (← nameOr ["self"])],
      whenever (startsWord "as") (inOrder [word "as", return [.word (← nameOr ["_"])]]), punct ";"]

/-! ## Items -/

def placeItem (grammar : Grammar) : Reader (List Token) := do
  let start ← inOrder
    [optionalWord "unsafe", word "mod", return [.word (← nameOr ["try"])]]
  if startsPunct ";" (← get) then return start ++ (← punct ";")
  else
    let items := return (← untilEnd List.isEmpty grammar.item).flatten
    return start ++ (← grammar.attributedGroup items)

/-- Reads the definition of a macro by its arguments and its body, which is kept as it is written.
-/
def macroDefinition : Reader (Option (List Token)) := do
  let _ ← inOrder
    [word "macro", nameToken, whenever (startsGroup .parenthesis) someGroup, anyGroup .brace]
  return none

def dataItem (grammar : Grammar) : Reader (List Token) := do
  let tokens ← get
  let keyword ← someWord
  let start ← inOrder [nameToken, grammar.parameterTokens]
  let rest ←
    if startsWord "struct" tokens then pure (← grammar.record).tokens
    else
      let conditions ← grammar.conditions
      let body ←
        if startsWord "enum" tokens then pure (← grammar.variants).2
        else pure (← grammar.namedFields).tokens
      pure (conditions ++ body)
  return .word keyword :: start ++ rest

/-- The reader of an item of which it may be said who sees it, by what comes first. -/
def visibleItem? (grammar : Grammar) (tokens : List Token) :
    Option (Reader (Option (List Token))) :=
  let second := afterFirst tokens
  if startsSignature false tokens then some grammar.functionItem
  else if startsWord "extern" tokens && startsWord "crate" second then some (some <$> libraryItem)
  else if startsWord "use" tokens then some importDecl
  else if startsWord "static" tokens then some grammar.staticItem
  else if startsWord "const" tokens then
    some do
      let constant ← grammar.constantDecl
      return if constant.hasValue && !constant.isGeneric then some constant.tokens else none
  else if startsWord "mod" tokens || (startsWord "unsafe" tokens && startsWord "mod" second) then
    some (some <$> grammar.placeItem)
  else if startsWord "type" tokens then
    some do
      let type ← grammar.typeDecl .beforeDefinition
      return if type.hasDefinition && !type.hasBounds then some type.tokens else none
  else if startsAnyWord ["struct", "enum"] tokens ||
      (startsWord "union" tokens && startsName second) then
    some (some <$> grammar.dataItem)
  else if startsWord "trait" (dropWord "auto" (dropWord "unsafe" tokens)) then
    some (some <$> grammar.traitItem)
  else if startsWord "macro" tokens then some macroDefinition
  else none

/-- Whether an item comes first that says what a trait is for a type. -/
def startsImpl (tokens : List Token) : Bool :=
  let second := afterFirst tokens
  startsWord "impl" tokens ||
    (startsWord "default" tokens && !startsPunct "!" second) ||
    (startsWord "unsafe" tokens && startsWord "impl" second)

def itemContent (grammar : Grammar) : Reader (Option (List Token)) := do
  let visibility ← visibility
  let tokens ← get
  match grammar.visibleItem? tokens with
  | some reader => return (← reader).map (visibility ++ ·)
  | none =>
    if startsImpl tokens then grammar.implItem (!visibility.isEmpty)
    else if !visibility.isEmpty then failure
    else if startsAnyWord ["extern", "unsafe"] tokens then return some (← grammar.foreignItem)
    else return some (← macroDecl true)

def readItem (grammar : Grammar) : Reader (List Token) :=
  grammar.behindAttributes grammar.itemContent

end SchemaMatch.Derive.Grammar
