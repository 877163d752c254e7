import SchemaMatch.Derive.Grammar.Attribute

/-!
# Reading paths

A path is a list of names, each perhaps with arguments in angle brackets. In an expression two
colons must stand before the arguments. A path may start from a type in angle brackets.
-/

namespace SchemaMatch.Derive

open Cursor Reader

/-- An argument of a name in a path. -/
structure Argument where
  isLifetime : Bool
  /-- The type that it is, if it is one. -/
  type : Option TypeShape
  tokens : List Token
  deriving Repr

/-- The arguments of a name in a path. -/
structure Arguments where
  /-- The first of them that is a type. -/
  firstType : Option TypeShape
  isEmpty : Bool
  tokens : List Token
  deriving Repr

/-- A name in a path. -/
structure Segment where
  name : String
  arguments : Option Arguments
  deriving Repr

namespace Segment

/-- The tokens of a name with its arguments. -/
def tokens (segment : Segment) : List Token :=
  .word segment.name :: match segment.arguments with
    | some arguments => arguments.tokens
    | none => []

def allTokens : List Segment → List Token
  | [] => []
  | [last] => last.tokens
  | first :: rest => first.tokens ++ Token.ofPunct "::" ++ allTokens rest

end Segment

structure Path where
  isQualified : Bool
  /-- What stands in front of the names. -/
  start : List Token
  segments : List Segment
  deriving Repr

namespace Path

/-- The tokens of a path. -/
def tokens (path : Path) : List Token := path.start ++ Segment.allTokens path.segments

def isPlain (path : Path) : Bool :=
  !path.isQualified && path.segments.all (·.arguments.isNone)

def form (path : Path) : PathForm :=
  if path.isQualified then .qualified
  else if path.start.isEmpty && path.segments.length == 1 then .single
  else .long

def shape (path : Path) : TypeShape :=
  match path.segments.getLast? with
  | some last => .path path.form last.name (last.arguments.bind (·.firstType))
  | none => .other

def endsPlain (path : Path) : Bool :=
  path.segments.getLast?.all fun last => last.arguments.all (·.isEmpty)

def withoutLastArguments (path : Path) : Path :=
  let last := path.segments.getLast?.toList.map ({ · with arguments := none })
  { path with segments := path.segments.dropLast ++ last }

end Path

/-- The tokens of elements with their commas, lifetimes in front. A comma is put between the
lifetimes and the others where the last lifetime has none. -/
def lifetimesFirst {α : Type} (isLifetime : α → Bool) (form : α → List Token)
    (elements : List (Element α)) : List Token :=
  let lifetimes := elements.filter (isLifetime ·.value)
  let others := elements.filter (!isLifetime ·.value)
  let between :=
    if !others.isEmpty && lifetimes.getLast?.any (!·.separated) then Token.ofPunct "," else []
  written "," form lifetimes ++ between ++ written "," form others

namespace Grammar

/-- Reads a constant that is an argument: a literal, a name or a block. -/
def constant (grammar : Grammar) : Reader (List Token) := do
  let tokens ← get
  if startsLiteral tokens then literal
  else if startsName tokens then nameToken
  else grammar.attributedBlock

def startsConstant (tokens : List Token) : Bool :=
  startsLiteral tokens || startsGroup .brace tokens

/-- Reads what may follow an argument that starts with a name: the type or the constant that the
name stands for, or its bounds. Tells the tokens if there is any of these. -/
def constraint (grammar : Grammar) : Reader (List Token) := do
  let tokens ← get
  if startsPunct "=" tokens then
    let equals ← punct "="
    if startsConstant (← get) then return equals ++ (← grammar.constant)
    else return equals ++ (← grammar.typeTokens true)
  else if startsPunct ":" tokens then
    let colon ← punct ":"
    let bounds ← joined (startsAnyPunct [",", ">"]) "+" (grammar.bound .declaration)
    return colon ++ written "+" (·.tokens) bounds
  else return []

def argument (grammar : Grammar) : Reader Argument := do
  let tokens ← get
  if startsLifetime tokens && !startsPunct "+" (afterFirst tokens) then
    return ⟨true, none, ← lifetime⟩
  else if startsConstant tokens then return ⟨false, none, ← grammar.constant⟩
  else
    let type ← grammar.type true
    match type.shape with
    | .path .single _ _ =>
      match ← grammar.constraint with
      | [] => return ⟨false, some type.shape, type.tokens⟩
      | more => return ⟨false, none, type.tokens ++ more⟩
    | shape => return ⟨false, some shape, type.tokens⟩

def arguments (grammar : Grammar) : Reader Arguments := do
  let opening ← punct "<"
  let elements ← separated (startsPunct ">") "," grammar.argument
  let closing ← punct ">"
  return ⟨elements.findSome? (·.value.type), elements.isEmpty,
    opening ++ lifetimesFirst (·.isLifetime) (·.tokens) elements ++ closing⟩

/-- Whether arguments come first in a type: an angle bracket that is no part of a comparison or a
shift. -/
def startsArguments (tokens : List Token) : Bool :=
  startsPunct "<" tokens && !startsAnyPunct ["<=", "<<="] tokens

def startsColonArguments (tokens : List Token) : Bool :=
  startsPunct "::" tokens && startsPunct "<" (afterSecond tokens)

def segment (grammar : Grammar) (inExpression : Bool) : Reader Segment := do
  if startsAnyWord ["super", "self", "crate", "try"] (← get) then
    return ⟨← someWord, none⟩
  let name ← nameOr ["Self"]
  let tokens ← get
  if (!inExpression && startsArguments tokens) || startsColonArguments tokens then
    let colons ← optionalPunct "::"
    let arguments ← grammar.arguments
    return ⟨name, some { arguments with tokens := colons ++ arguments.tokens }⟩
  else return ⟨name, none⟩

/-- Reads names of a path with two colons between them, while a condition holds where two colons may
stand. -/
def segments (grammar : Grammar) (inExpression : Bool) (continues : List Token → Bool) :
    Reader (List Segment) := do
  let first ← grammar.segment inExpression
  let others ← during continues do
    let _ ← punct "::"
    grammar.segment inExpression
  return first :: others

/-- Reads a path. Two colons with parentheses after them do not belong to it. -/
def path (grammar : Grammar) (inExpression : Bool) : Reader Path := do
  let start ← optionalPunct "::"
  let segments ← grammar.segments inExpression fun tokens =>
    startsPunct "::" tokens && !startsGroup .parenthesis (afterSecond tokens)
  return ⟨false, start, segments⟩

/-- Reads a path that may start from a type in angle brackets. -/
def anyPath (grammar : Grammar) (inExpression : Bool) : Reader Path := do
  if startsPunct "<" (← get) then
    let start ← inOrder
      [punct "<", grammar.typeTokens true,
        whenever (startsWord "as")
          (inOrder [word "as", return (← grammar.path false).tokens]),
        punct ">", punct "::"]
    let segments ← grammar.segments inExpression (startsPunct "::")
    return ⟨true, start, segments⟩
  else grammar.path inExpression

/-- Whether a path comes first, or a type in angle brackets from which it starts. -/
def startsPath (tokens : List Token) : Bool :=
  startsPathWord tokens || startsAnyPunct ["::", "<"] tokens

/-- Reads a word that the compiler gives a meaning, with its arguments. -/
def builtin : Reader (List Token) :=
  inOrder [word "builtin", punct "#", nameToken, anyGroup .parenthesis]

/-- Whether a word that the compiler gives a meaning comes first. -/
def startsBuiltin (tokens : List Token) : Bool :=
  startsWord "builtin" tokens && startsPunct "#" (afterFirst tokens)

def endInBraces (tokens : List Token) : Bool :=
  tokens.getLast?.any fun token => startsGroup .brace [token]

def macroCall : Reader (List Token) := inOrder [punct "!", someGroup]

end Grammar

end SchemaMatch.Derive
