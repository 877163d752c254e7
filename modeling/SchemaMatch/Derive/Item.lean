import SchemaMatch.Derive.Lexer
import SchemaMatch.Derive.Grammar.Level

/-!
# Declarations

A declaration says what a record, a choice or an overlay holds, with parameters and conditions on
them. Its text is a declaration and nothing else.
-/

namespace SchemaMatch.Derive

open Cursor Reader

/-- What a declaration declares. -/
inductive Body
  | record (fields : Fields)
  | choice (variants : List VariantDecl)
  | overlay
  deriving Repr

/-- A declaration. -/
structure Item where
  attributes : List Attribute
  name : String
  parameters : List (Element Parameter)
  /-- The conditions on the parameters, as they are written. -/
  conditions : List Token
  body : Body
  deriving Repr

namespace Grammar

/-- Reads the conditions and the body of a declaration after its keyword. -/
def body (grammar : Grammar) (keyword : String) : Reader (List Token × Body) := do
  match keyword with
  | "struct" =>
    let record ← grammar.record
    return (record.conditions, .record record.fields)
  | "enum" =>
    let conditions ← grammar.conditions
    return (conditions, .choice (← grammar.variants).1)
  | "union" =>
    let conditions ← grammar.conditions
    let _ ← grammar.namedFields
    return (conditions, .overlay)
  | _ => failure

def declaration (grammar : Grammar) : Reader Item := do
  let attributes ← grammar.attributes
  let _ ← visibility
  let keyword ← someWord
  let name ← name
  let parameters ← grammar.parameters
  let (conditions, body) ← grammar.body keyword
  return ⟨attributes, name, parameters, conditions, body⟩

end Grammar

namespace Item

def ofTokens? (tokens : List Token) : Option Item :=
  all? (Grammar.forTokens tokens).declaration tokens

def ofText? (text : String) : Option Item := (tokens? text).bind ofTokens?

def generics (item : Item) : List Token := Parameter.allTokens Parameter.declared item.parameters

def selfType (item : Item) : List Token :=
  .word item.name :: Parameter.allTokens Parameter.used item.parameters

end Item

end SchemaMatch.Derive
