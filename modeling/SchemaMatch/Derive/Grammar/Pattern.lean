import SchemaMatch.Derive.Grammar.Path

/-!
# Reading patterns

A pattern is a name, a literal, a path with what it takes apart, a range, a reference, or a group of
patterns. A range with three dots is written with an equals sign for the third.
-/

namespace SchemaMatch.Derive

open Cursor Reader

def greatestMember : Nat := Nat.pow 2 32 - 1

/-- Reads the name of a member or its number, and whether it is a name. -/
def Reader.member : Reader (Bool × List Token) := do
  match ← get with
  | .literal literal :: rest =>
    match literal.plainInteger? with
    | some value =>
      if greatestMember < value then failure
      set rest
      return (false, [.literal (.ofNat value)])
    | none => failure
  | _ => return (true, ← nameToken)

namespace Grammar

def startsBar (tokens : List Token) : Bool :=
  startsPunct "|" tokens && !startsAnyPunct ["||", "|="] tokens

def alternatives (grammar : Grammar) : Reader Pattern := do
  let bar ← optionalPunct "|"
  let first ← grammar.pattern
  let others ← during startsBar do return (← punct "|") ++ (← grammar.pattern).tokens
  if bar.isEmpty && others.isEmpty then return first
  else return .ofTokens (bar ++ first.tokens ++ others.flatten)

def alternativeTokens (grammar : Grammar) : Reader (List Token) :=
  return (← grammar.alternatives).tokens

def patternTokens (grammar : Grammar) : Reader (List Token) :=
  return (← grammar.pattern).tokens

def rangeMark : Reader (Bool × List Token) := do
  let tokens ← get
  if startsPunct "..=" tokens then return (true, ← punct "..=")
  else if startsPunct "..." tokens then
    let _ ← punct "..."
    return (true, Token.ofPunct "..=")
  else return (false, ← punct "..")

def omitsRangeEnd (tokens : List Token) : Bool :=
  tokens.isEmpty || startsAnyPunct ["|", "=", ",", ";"] tokens || startsColon tokens ||
    startsWord "if" tokens

def rangeEnd (grammar : Grammar) : Reader (List Token) := do
  let tokens ← get
  if startsLiteral tokens then literal
  else if startsWord "const" tokens then inOrder [word "const", grammar.attributedBlock]
  else if startsPath tokens then return (← grammar.anyPath true).tokens
  else failure

/-- Reads the rest of a range in a pattern after its lower end. -/
def rangeAfter (grammar : Grammar) (start : List Token) : Reader Pattern := do
  let (isClosed, mark) ← rangeMark
  if omitsRangeEnd (← get) then
    if isClosed then failure else return ⟨.openRange, start ++ mark⟩
  else return .ofTokens (start ++ mark ++ (← grammar.rangeEnd))

/-- Reads a pattern that starts with two dots: a range without a lower end, or all that is left. -/
def rangeWithoutStart (grammar : Grammar) : Reader Pattern := do
  require fun tokens => !startsPunct "..." tokens
  let (isClosed, mark) ← rangeMark
  if omitsRangeEnd (← get) then
    if isClosed then failure else return ⟨.rest, mark⟩
  else return ⟨.openRange, mark ++ (← grammar.rangeEnd)⟩

def constantPattern (grammar : Grammar) : Reader Pattern := do
  let start ← grammar.rangeEnd
  if startsPunct ".." (← get) then grammar.rangeAfter start else return .ofTokens start

def fieldPattern (grammar : Grammar) : Reader (List Token) := do
  let before ← get
  let box ← optionalWord "box"
  let marks ← inOrder [optionalWord "ref", optionalWord "mut"]
  if box.isEmpty && marks.isEmpty then
    let (isName, member) ← member
    if !isName || startsPunct ":" (← get) then
      return member ++ (← inOrder [punct ":", grammar.alternativeTokens])
    else return member
  else
    let name ← nameToken
    if box.isEmpty then return marks ++ name else takenSince before

/-- Reads the fields in a pattern up to the end. Two dots for all other fields may come last. -/
def fieldPatterns (grammar : Grammar) : Reader (List Token) := do
  let elements ← commaSeparated do
    let attributes ← grammar.attributeTokens
    if startsPunct ".." (← get) then return (true, attributes ++ (← punct ".."))
    else return (false, attributes ++ (← grammar.fieldPattern))
  if elements.all fun element => !element.value.1 || !element.separated then
    return written "," (·.2) elements
  else failure

def pathPattern (grammar : Grammar) : Reader Pattern := do
  let path ← grammar.anyPath true
  let tokens ← get
  if path.isPlain && startsBang tokens then return .ofTokens (path.tokens ++ (← macroCall))
  else if startsGroup .brace tokens then
    return .ofTokens (path.tokens ++ (← group .brace grammar.fieldPatterns))
  else if startsGroup .parenthesis tokens then
    return .ofTokens (path.tokens ++
      (← group .parenthesis (commaList grammar.alternativeTokens)))
  else if startsPunct ".." tokens then grammar.rangeAfter path.tokens
  else return .ofTokens path.tokens

def namePattern (grammar : Grammar) : Reader Pattern := do
  let marks ← inOrder [optionalWord "ref", optionalWord "mut"]
  let name ← nameOr ["self"]
  let inner ← whenever (startsPunct "@") (inOrder [punct "@", grammar.patternTokens])
  return .ofTokens (marks ++ .word name :: inner)

/-- Reads the patterns of the elements of a list up to the end. None may be an open range. -/
def elementPatterns (grammar : Grammar) : Reader (List Token) :=
  commaList do
    let pattern ← grammar.alternatives
    if pattern.kind == .openRange then failure else return pattern.tokens

def startsPathPattern (tokens : List Token) : Bool :=
  let second := afterFirst tokens
  (startsName tokens &&
    (startsAnyPunct ["::", "!", ".."] second || startsGroup .brace second ||
      startsGroup .parenthesis second)) ||
    (startsWord "self" tokens && startsPunct "::" second) ||
    startsAnyPunct ["::", "<"] tokens || startsAnyWord ["Self", "super", "crate"] tokens

def readPattern (grammar : Grammar) : Reader Pattern := do
  let tokens ← get
  if startsPathPattern tokens then grammar.pathPattern
  else if startsWord "_" tokens then return .ofTokens (← word "_")
  else if startsWord "box" tokens then
    return ⟨.fixed, ← asWritten (inOrder [word "box", grammar.patternTokens])⟩
  else if startsPunct "-" tokens || startsLiteral tokens || startsWord "const" tokens then
    grammar.constantPattern
  else if startsAnyWord ["ref", "mut", "self"] tokens || startsName tokens then
    grammar.namePattern
  else if startsPunct "&" tokens then
    return .ofTokens (← inOrder [punct "&", optionalWord "mut", grammar.patternTokens])
  else if startsGroup .parenthesis tokens then
    return .ofTokens (← group .parenthesis (commaList grammar.alternativeTokens))
  else if startsGroup .bracket tokens then
    return .ofTokens (← group .bracket grammar.elementPatterns)
  else if startsPunct ".." tokens then grammar.rangeWithoutStart
  else failure

end Grammar

end SchemaMatch.Derive
