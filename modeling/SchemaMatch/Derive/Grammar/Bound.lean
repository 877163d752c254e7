import SchemaMatch.Derive.Grammar.Parameter

/-!
# Reading bounds

A bound is a lifetime or a trait. The path of a trait may end in arguments in parentheses, which
replace empty ones in angle brackets. A trait that holds in constants is kept as it is written.
-/

namespace SchemaMatch.Derive.Grammar

open Cursor Reader

/-- Reads an arrow and the type after it, if there is an arrow. Bounds are joined in the type only
if so told. -/
def returned (grammar : Grammar) (plus : Bool) : Reader (List Token) :=
  whenever (startsPunct "->") (inOrder [punct "->", grammar.typeTokens plus])

/-- Reads arguments in parentheses and the type that a call of them gives. -/
def callArguments (grammar : Grammar) : Reader (List Token) :=
  inOrder [group .parenthesis (commaList (grammar.typeTokens true)), grammar.returned false]

/-- Whether arguments in parentheses come first, perhaps after two colons. -/
def startsCallArguments (tokens : List Token) : Bool :=
  startsGroup .parenthesis tokens ||
    (startsPunct "::" tokens && startsGroup .parenthesis (afterSecond tokens))

def traitPath (grammar : Grammar) : Reader (List Token) := do
  let path ← grammar.path false
  if path.endsPlain && startsCallArguments (← get) then
    let _ ← optionalPunct "::"
    return path.withoutLastArguments.tokens ++ (← grammar.callArguments)
  else return path.tokens

def constantMark : Reader (List Token) := do
  if startsGroup .bracket (← get) then group .bracket (word "const") else optionalWord "const"

/-- Reads a trait, and whether it holds in constants. A binder may stand only where no question mark
does. -/
def traitBound (grammar : Grammar) (place : BoundPlace) : Reader (Bool × List Token) := do
  let binder ← grammar.optionalBinder
  let constant ← constantMark
  if !constant.isEmpty && !place.allowsConstants then failure
  let question ← optionalPunct "?"
  if !question.isEmpty && (!binder.isEmpty || startsWord "for" (← get)) then failure
  let path ← grammar.traitPath
  return (!constant.isEmpty, question ++ binder ++ path)

/-- Reads the parameters that a hidden type may use. -/
def capture : Reader (List Token) := do
  let start ← inOrder [word "use", punct "<"]
  let elements ← separated (startsPunct ">") "," do
    if startsLifetime (← get) then return (true, ← lifetime)
    else return (false, [.word (← nameOr ["Self"])])
  let closing ← punct ">"
  return start ++ lifetimesFirst (·.1) (·.2) elements ++ closing

def readBound (grammar : Grammar) (place : BoundPlace) : Reader Bound := do
  let tokens ← get
  if startsLifetime tokens then return ⟨.lifetime, ← lifetime⟩
  else if startsWord "use" tokens then
    if place.allowsCaptures then return ⟨.capture, ← capture⟩ else failure
  else
    let isEnclosed := startsGroup .parenthesis tokens
    let trait := grammar.traitBound place
    let (isConstant, path) ← if isEnclosed then inside .parenthesis trait else trait
    if isConstant then
      return ⟨.constant, ← takenSince tokens⟩
    else return ⟨.trait, if isEnclosed then [.group .parenthesis path] else path⟩

def startsBound (place : BoundPlace) (tokens : List Token) : Bool :=
  startsSomeWord tokens || startsAnyPunct ["::", "?"] tokens || startsLifetime tokens ||
    startsGroup .parenthesis tokens ||
    (place.allowsConstants && startsGroup .bracket tokens)

def boundList (grammar : Grammar) (plus : Bool) (place : BoundPlace) :
    Reader (List (Element Bound)) := do
  if plus then joined (fun tokens => !startsBound place tokens) "+" (grammar.bound place)
  else return [⟨← grammar.bound place, false⟩]

/-- Whether bounds say what a type of objects or a hidden type does: one is a trait. -/
def haveTrait (bounds : List (Element Bound)) : Bool :=
  bounds.any fun bound => bound.value.kind == .trait || bound.value.kind == .constant

def traitList (grammar : Grammar) (plus : Bool) (place : BoundPlace) : Reader (List Token) := do
  let bounds ← grammar.boundList plus place
  if haveTrait bounds then return written "+" (·.tokens) bounds else failure

end SchemaMatch.Derive.Grammar
