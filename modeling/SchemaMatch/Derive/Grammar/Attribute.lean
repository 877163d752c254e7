import SchemaMatch.Derive.Grammar.Basic

/-!
# Reading attributes

An attribute stands in brackets after a number sign: the path of a name, then nothing, a group, or
an equals sign with a value. Attributes of a block may stand inside it, with an exclamation mark.
-/

namespace SchemaMatch.Derive

open Cursor Reader

/-- What stands after the name of an attribute. -/
inductive AttributeBody
  | bare
  | list (inner : List Token)
  | value
  deriving Repr

/-- An attribute. -/
structure Attribute where
  /-- The name, if it is a single one. -/
  name : Option String
  body : AttributeBody
  tokens : List Token
  deriving Repr

def Attribute.allTokens (attributes : List Attribute) : List Token := attributes.flatMap (·.tokens)

/-- Reads names with two colons between them. Tells the name if it is a single one, and the
tokens. -/
def Reader.plainPath : Reader (Option String × List Token) := do
  let colons ← optionalPunct "::"
  require startsPathWord
  let first ← someWord
  let others ← during (startsPunct "::") do
    let between ← punct "::"
    require startsPathWord
    return between ++ [.word (← someWord)]
  let name := if colons.isEmpty && others.isEmpty then some first else none
  return (name, colons ++ .word first :: others.flatten)

namespace Grammar

/-- Reads the value of an attribute: a literal up to the end, or an expression that starts with no
attribute. -/
def attributeValue (grammar : Grammar) : Reader (List Token) := do
  match all? literal (← get) with
  | some value =>
    set ([] : List Token)
    return value
  | none =>
    require fun tokens => !(startsPunct "#" tokens && startsGroup .bracket (afterFirst tokens))
    grammar.anyExpression

def attributeContent (grammar : Grammar) : Reader Attribute := do
  let (name, path) ←
    if startsWord "unsafe" (← get) then pure (some "unsafe", ← word "unsafe") else plainPath
  match ← get with
  | .group delimiter inner :: rest =>
    set rest
    return ⟨name, .list inner, path ++ [.group delimiter inner]⟩
  | tokens =>
    if startsPunct "=" tokens then
      let equals ← punct "="
      return ⟨name, .value, path ++ equals ++ (← grammar.attributeValue)⟩
    else return ⟨name, .bare, path⟩

def markedAttribute (grammar : Grammar) (mark : List String) : Reader Attribute := do
  let start ← inOrder (mark.map punct)
  let content ← inside .bracket grammar.attributeContent
  return { content with tokens := start ++ [.group .bracket content.tokens] }

/-- Reads the attributes in front of something. -/
def attributes (grammar : Grammar) : Reader (List Attribute) :=
  during (startsPunct "#") (grammar.markedAttribute ["#"])

/-- Reads the attributes in front of something and keeps their tokens. -/
def attributeTokens (grammar : Grammar) : Reader (List Token) :=
  return Attribute.allTokens (← grammar.attributes)

def innerAttributes (grammar : Grammar) : Reader (List Token) :=
  return Attribute.allTokens (← during
    (fun tokens => startsPunct "#" tokens && startsPunct "!" (afterFirst tokens))
    (grammar.markedAttribute ["#", "!"]))

/-- Reads a group in braces with attributes inside in front of the rest. -/
def attributedGroup (grammar : Grammar) (content : Reader (List Token)) : Reader (List Token) :=
  group .brace (inOrder [grammar.innerAttributes, content])

def attributedBlock (grammar : Grammar) : Reader (List Token) :=
  grammar.attributedGroup grammar.statements

end Grammar

end SchemaMatch.Derive
