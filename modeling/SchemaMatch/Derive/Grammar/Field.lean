import SchemaMatch.Derive.Grammar.Type

/-!
# Reading fields and variants

A record has fields with or without names, and a choice has variants with fields. Who sees a variant
may be said, and is not written.
-/

namespace SchemaMatch.Derive

open Cursor Reader

/-- A field that has a name. -/
structure FieldDecl where
  attributes : List Attribute
  name : String
  type : TypeShape
  deriving Repr

/-- The fields of a record or a variant. -/
inductive Fields
  | unit
  | unnamed (count : Nat)
  | named (fields : List FieldDecl)
  deriving Repr

/-- A variant of a choice. -/
structure VariantDecl where
  name : String
  fields : Fields
  deriving Repr

/-- The places in which a declaration may be seen that are named by one word. -/
def visibilityWords : List String := ["crate", "self", "super"]

/-- Reads who sees a declaration, if that is said. Parentheses that say nothing of it are left. -/
def Reader.visibility : Reader (List Token) :=
  whenever (startsWord "pub") do
    let mark ← word "pub"
    match ← get with
    | .group .parenthesis inner :: _ =>
      if startsWord "in" inner then
        return mark ++ (← group .parenthesis (inOrder [word "in", return (← plainPath).2]))
      else if startsAnyWord visibilityWords inner && inner.length == 1 then
        return mark ++ (← someGroup)
      else return mark
    | _ => return mark

/-- Fields and their tokens. -/
structure FieldsSyntax where
  fields : Fields
  tokens : List Token
  deriving Repr

namespace Grammar

/-- Whether the fields of a type without a name come first. -/
def startsAnonymous (tokens : List Token) : Bool :=
  startsWord "struct" tokens ||
    (startsWord "union" tokens && startsGroup .brace (afterFirst tokens))

def namedField (grammar : Grammar) (type : String → Reader TypeSyntax) :
    Reader (FieldDecl × List Token) := do
  let attributes ← grammar.attributes
  let visibility ← visibility
  let name ← nameOr ["_"]
  let colon ← punct ":"
  let type ← type name
  return (⟨attributes, name, type.shape⟩,
    Attribute.allTokens attributes ++ visibility ++ .word name :: colon ++ type.tokens)

/-- Reads the fields with names in a group. A field that has no name may have a type with fields of
its own, to a depth that the last argument bounds. -/
def namedFieldsBounded (grammar : Grammar) : Nat → Reader FieldsSyntax
  | 0 => failure
  | bound + 1 =>
    inside .brace do
      let elements ← commaSeparated <| grammar.namedField fun name => do
        if name == "_" && startsAnonymous (← get) then
          return .ofTokens (← asWritten (someWord *> grammar.namedFieldsBounded bound))
        else grammar.type true
      return ⟨.named (elements.map (·.value.1)), [.group .brace (written "," (·.2) elements)]⟩

def namedFields (grammar : Grammar) : Reader FieldsSyntax := do
  grammar.namedFieldsBounded (Token.weightAll (← get) + 1)

def unnamedFields (grammar : Grammar) : Reader FieldsSyntax :=
  inside .parenthesis do
    let elements ← commaSeparated
      (inOrder [grammar.attributeTokens, visibility, grammar.typeTokens true])
    return ⟨.unnamed elements.length, [.group .parenthesis (written "," id elements)]⟩

def variantFields (grammar : Grammar) : Reader FieldsSyntax := do
  let tokens ← get
  if startsGroup .brace tokens then grammar.namedFields
  else if startsGroup .parenthesis tokens then grammar.unnamedFields
  else return ⟨.unit, []⟩

def variant (grammar : Grammar) : Reader (VariantDecl × List Token) := do
  let attributes ← grammar.attributeTokens
  let _ ← visibility
  let name ← name
  let fields ← grammar.variantFields
  let value ← whenever (startsPunct "=") (inOrder [punct "=", grammar.anyExpression])
  return (⟨name, fields.fields⟩, attributes ++ .word name :: fields.tokens ++ value)

def variants (grammar : Grammar) : Reader (List VariantDecl × List Token) :=
  inside .brace do
    let elements ← commaSeparated grammar.variant
    return (elements.map (·.value.1), [.group .brace (written "," (·.2) elements)])

/-- The conditions, the fields and the tokens of a record. -/
structure RecordSyntax where
  conditions : List Token
  fields : Fields
  tokens : List Token

/-- Reads the conditions and the fields of a record. Conditions stand before fields in braces, and
after fields in parentheses. -/
def record (grammar : Grammar) : Reader RecordSyntax := do
  if startsGroup .parenthesis (← get) then
    let fields ← grammar.unnamedFields
    let conditions ← grammar.conditions
    let mark ← punct ";"
    return ⟨conditions, fields.fields, fields.tokens ++ conditions ++ mark⟩
  else
    let conditions ← grammar.conditions
    if startsPunct ";" (← get) then
      return ⟨conditions, .unit, conditions ++ (← punct ";")⟩
    else
      let fields ← grammar.namedFields
      return ⟨conditions, fields.fields, conditions ++ fields.tokens⟩

end Grammar

end SchemaMatch.Derive
