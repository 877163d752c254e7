import SchemaMatch.Derive.Grammar.Path

/-!
# Reading parameters

A declaration may have parameters in angle brackets and conditions on them. A type or a bound may
introduce parameters for itself. Bounds that are left empty are not written, nor are parameters or
conditions of which there are none.
-/

namespace SchemaMatch.Derive

open Cursor Reader

/-- A parameter of a declaration. -/
structure Parameter where
  isLifetime : Bool
  /-- How it is named where it is used. -/
  used : List Token
  /-- How it is declared, without a default. -/
  declared : List Token
  /-- What it stands for by default, after an equals sign. -/
  default : List Token
  deriving Repr

namespace Parameter

/-- The tokens of a parameter with its default. -/
def tokens (parameter : Parameter) : List Token := parameter.declared ++ parameter.default

/-- The tokens of parameters in angle brackets, lifetimes in front, in one of their forms. -/
def allTokens (form : Parameter → List Token) (parameters : List (Element Parameter)) :
    List Token :=
  if parameters.isEmpty then []
  else
    Token.ofPunct "<" ++ lifetimesFirst (·.isLifetime) form parameters ++ Token.ofPunct ">"

end Parameter

namespace Grammar

/-- Reads a colon and the bounds after it, which are separated by plus signs and end where told. -/
def declaredBounds (grammar : Grammar) (ends : List Token → Bool) : Reader (List Token) :=
  whenever (startsPunct ":") do
    let colon ← punct ":"
    let bounds ← joined ends "+" (grammar.bound .declaration)
    return if bounds.isEmpty then [] else colon ++ written "+" (·.tokens) bounds

/-- Reads a colon and the lifetimes after it, which are separated by plus signs and end where
told. -/
def lifetimeBounds (ends : List Token → Bool) : Reader (List Token) :=
  whenever (startsPunct ":") do
    let colon ← punct ":"
    let bounds ← joined ends "+" lifetime
    return if bounds.isEmpty then [] else colon ++ written "+" id bounds

def parameter (grammar : Grammar) (nameless : Bool) : Reader Parameter := do
  let start ← grammar.attributeTokens
  let tokens ← get
  if startsLifetime tokens then
    let name ← lifetime
    let bounds ← lifetimeBounds fun tokens =>
      tokens.isEmpty || startsAnyPunct [",", ">"] tokens
    return ⟨true, name, start ++ name ++ bounds, []⟩
  else if startsWord "const" tokens then
    let mark ← word "const"
    let name ← nameToken
    let type ← inOrder [punct ":", grammar.typeTokens true]
    let default ← whenever (startsPunct "=") (inOrder [punct "=", grammar.constant])
    return ⟨false, name, start ++ mark ++ name ++ type, default⟩
  else if nameless && startsWord "_" tokens then
    let name ← word "_"
    return ⟨false, name, start ++ name, []⟩
  else
    let name ← nameToken
    let bounds ← grammar.declaredBounds (startsAnyPunct [",", ">", "="])
    let default ← whenever (startsPunct "=") (inOrder [punct "=", grammar.typeTokens true])
    return ⟨false, name, start ++ name ++ bounds, default⟩

def parameters (grammar : Grammar) : Reader (List (Element Parameter)) := do
  if startsPunct "<" (← get) then
    let _ ← punct "<"
    let elements ← separated (startsPunct ">") "," (grammar.parameter true)
    let _ ← punct ">"
    return elements
  else return []

/-- Reads parameters in angle brackets and keeps their tokens. -/
def parameterTokens (grammar : Grammar) : Reader (List Token) :=
  return Parameter.allTokens Parameter.tokens (← grammar.parameters)

/-- Reads the parameters that a type or a bound introduces for itself. -/
def binder (grammar : Grammar) : Reader (List Token) := do
  let start ← inOrder [word "for", punct "<"]
  let elements ← separated (startsPunct ">") "," (grammar.parameter false)
  let closing ← punct ">"
  return start ++ written "," Parameter.tokens elements ++ closing

def optionalBinder (grammar : Grammar) : Reader (List Token) :=
  whenever (startsWord "for") grammar.binder

/-- Whether parameters come first rather than a type in angle brackets. -/
def startsParameters (tokens : List Token) : Bool :=
  let first := afterFirst tokens
  let second := afterFirst first
  startsPunct "<" tokens &&
    (startsAnyPunct [">", "#"] first || startsWord "const" first ||
      ((startsLifetime first || startsName first) &&
        (startsAnyPunct [">", ",", "="] second || startsColon second)))

def endsConditions (tokens : List Token) : Bool :=
  tokens.isEmpty || startsGroup .brace tokens || startsAnyPunct [",", ";", "="] tokens ||
    startsColon tokens

/-- Reads a condition: the bounds of a lifetime or of a type. -/
def constrained (grammar : Grammar) : Reader (List Token) := do
  let tokens ← get
  if startsLifetime tokens && startsPunct ":" (afterFirst tokens) then
    let name ← inOrder [lifetime, punct ":"]
    let bounds ← joined (fun tokens => endsConditions tokens || startsPunct ":" tokens) "+" lifetime
    return name ++ written "+" id bounds
  else
    let type ← inOrder [grammar.optionalBinder, grammar.typeTokens true, punct ":"]
    let bounds ← joined endsConditions "+" (grammar.bound .declaration)
    return type ++ written "+" (·.tokens) bounds

def conditions (grammar : Grammar) : Reader (List Token) :=
  whenever (startsWord "where") do
    let mark ← word "where"
    require fun tokens => !startsParameters tokens
    let elements ← joined endsConditions "," grammar.constrained
    return if elements.isEmpty then [] else mark ++ written "," id elements

end Grammar

end SchemaMatch.Derive
