import SchemaMatch.Derive.Literal
import SchemaMatch.Derive.Grammar.Atom

/-!
# Reading expressions

An expression is an operand with operators after it, each of which takes a right operand that binds
more tightly. Comparisons do not follow one another, and nothing follows a range. An operand is an
atom with accesses to its parts after it and operators in front of it. Where an expression stands as
a statement it ends with its block if it has one.
-/

namespace SchemaMatch.Derive.Grammar

open Cursor Reader

/-! ## Accesses -/

/-- Reads what stands after a dot: awaiting, a call with its arguments, or a member. -/
def memberAccess (grammar : Grammar) : Reader (List Token) := do
  if startsWord "await" (← get) then word "await"
  else
    let (isName, member) ← member
    let tokens ← get
    if isName && (startsPunct "::" tokens || startsGroup .parenthesis tokens) then
      let arguments ← whenever (startsPunct "::")
        (inOrder [punct "::", return (← grammar.arguments).tokens])
      return member ++ arguments ++ (← group .parenthesis (commaList grammar.anyExpression))
    else return member

def memberNumber? (text : String) : Option Token :=
  match Literal.numberKind text.toList with
  | .integer value false => if greatestMember < value then none else some (.literal (.ofNat value))
  | _ => none

/-- The numbers of members that a number with a point in it stands for, and whether the point comes
last. -/
def memberNumbers? (text : String) : Option (List Token × Bool) :=
  let parts := text.splitOn "."
  let isOpen := parts.getLast? == some ""
  ((if isOpen then parts.dropLast else parts).mapM memberNumber?).map (·, isOpen)

/-- Reads a dot and the access after it. What looks like a number with a point in it stands for the
numbers of members. -/
def dotAccess (grammar : Grammar) : Reader (List Token) := do
  let dot ← punct "."
  match ← get with
  | .literal ⟨text, .float⟩ :: rest =>
    match memberNumbers? text with
    | some (numbers, isOpen) =>
      set rest
      let numbers := numbers.flatMap (Token.ofPunct "." ++ [·])
      if isOpen then return numbers ++ Token.ofPunct "." ++ (← grammar.memberAccess)
      else return numbers
    | none => failure
  | _ => return dot ++ (← grammar.memberAccess)

/-- Reads an access to a part of an operand, if one comes next. -/
def access (grammar : Grammar) (isRange : Bool) : Reader (List Token) := do
  let tokens ← get
  if startsGroup .parenthesis tokens then group .parenthesis (commaList grammar.anyExpression)
  else if startsGroup .bracket tokens then group .bracket grammar.anyExpression
  else if !isRange && startsDot tokens then grammar.dotAccess
  else if !isRange && startsPunct "?" tokens then punct "?"
  else return []

/-- Adds accesses to an operand. The last argument bounds their number. -/
def accessedBounded (grammar : Grammar) (operand : Expression) : Nat → Reader Expression
  | 0 => failure
  | bound + 1 => do
    match ← grammar.access (operand.kind == .range) with
    | [] => return operand
    | more => grammar.accessedBounded (.ofTokens (operand.tokens ++ more)) bound

def accessed (grammar : Grammar) (operand : Expression) : Reader Expression := do
  grammar.accessedBounded operand ((← get).length + 1)

/-! ## Operands -/

def referenceKind : Reader (List Token) := do
  let tokens ← get
  let second := afterFirst tokens
  if startsWord "raw" tokens && startsAnyWord ["mut", "const"] second then
    inOrder [word "raw", word (if startsWord "mut" second then "mut" else "const")]
  else optionalWord "mut"

/-- Reads an operand: an atom with accesses after it, and attributes and operators in front of it. A
range may have no attributes in front. -/
def operand (grammar : Grammar) (braces : Bool) : Reader Expression := do
  let before ← get
  let attributes ← grammar.attributeTokens
  let tokens ← get
  let inner := return (← grammar.expression braces .operand).tokens
  if startsPunct "&" tokens then
    return .ofTokens (attributes ++ (← inOrder [punct "&", referenceKind, inner]))
  else
    match ["*", "!", "-"].find? (startsPunct · tokens) with
    | some mark => return .ofTokens (attributes ++ (← inOrder [punct mark, inner]))
    | none =>
      let expression ← grammar.accessed (← grammar.atom braces)
      if attributes.isEmpty then return expression
      else if expression.isFixed then return .asWritten (← takenSince before)
      else if expression.kind == .range then failure
      else return expression.withAttributes attributes

/-! ## Operators -/

/-- The operators between two operands but for the equals sign, longer ones before those they start
with. -/
def operators : List (String × Precedence) :=
  [("+=", .assignment), ("-=", .assignment), ("*=", .assignment), ("/=", .assignment),
    ("%=", .assignment), ("^=", .assignment), ("&=", .assignment), ("|=", .assignment),
    ("<<=", .assignment), (">>=", .assignment), ("&&", .conjunction), ("||", .disjunction),
    ("<<", .shift), (">>", .shift), ("==", .comparison), ("<=", .comparison),
    ("!=", .comparison), (">=", .comparison), ("+", .sum), ("-", .sum), ("*", .product),
    ("/", .product), ("%", .product), ("^", .bitXor), ("&", .bitAnd), ("|", .bitOr),
    ("<", .comparison), (">", .comparison)]

def operator? (tokens : List Token) : Option (String × Precedence) :=
  operators.find? fun operator => startsPunct operator.1 tokens

def startsAccess (tokens : List Token) : Bool :=
  startsDot tokens || startsPunct "?" tokens || startsGroup .bracket tokens ||
    startsGroup .parenthesis tokens

/-- Reads an operator that binds as tightly as told and what belongs to it on the right, and adds
them to the left operand. Tells nothing if no such operator comes next. -/
def operation? (grammar : Grammar) (braces : Bool) (least : Precedence) (left : Expression) :
    Reader (Option Expression) := do
  let tokens ← get
  if left.kind == .range then return none
  match operator? tokens with
  | some (mark, precedence) =>
    if !least.admits precedence then return none
    if precedence == .comparison && left.kind == .comparison then failure
    let mark ← punct mark
    let right ← grammar.expression braces precedence.ofRightOperand
    let kind := if precedence == .comparison then .comparison else .other
    return some ⟨kind, left.isFixed, left.tokens ++ mark ++ right.tokens⟩
  | none =>
    if least.admits .assignment && startsPunct "=" tokens && !startsPunct "=>" tokens then
      let mark ← punct "="
      let right ← grammar.expression braces .assignment
      return some ⟨.other, left.isFixed, left.tokens ++ mark ++ right.tokens⟩
    else if least.admits .range && startsPunct ".." tokens then
      return some ⟨.range, false, left.tokens ++ (← grammar.upperEnd braces)⟩
    else if least.admits .cast && startsWord "as" tokens then
      let type ← inOrder [word "as", grammar.typeTokens false]
      require fun tokens => !startsAccess tokens
      return some ⟨.other, left.isFixed, left.tokens ++ type⟩
    else return none

/-- Adds operators and their right operands. The last argument bounds their number. -/
def operationsBounded (grammar : Grammar) (braces : Bool) (least : Precedence)
    (left : Expression) : Nat → Reader Expression
  | 0 => failure
  | bound + 1 => do
    match ← grammar.operation? braces least left with
    | none => return left
    | some more => grammar.operationsBounded braces least more bound

/-- Adds operators that bind as tightly as told, and their right operands. -/
def operations (grammar : Grammar) (braces : Bool) (least : Precedence) (left : Expression) :
    Reader Expression := do
  grammar.operationsBounded braces least left ((← get).length + 1)

def readExpression (grammar : Grammar) (braces : Bool) (least : Precedence) :
    Reader Expression := do
  grammar.operations braces least (← grammar.operand braces)

/-- How an expression that stands as a statement is read by means of a grammar. After one that ends
in its block only accesses continue it. -/
def readStatementExpression (grammar : Grammar) : Reader Expression := do
  let attributes ← grammar.attributeTokens
  let first ←
    if startsBlock (← get) then pure (Expression.ofBlock (← grammar.blockExpression))
    else grammar.operand true
  let tokens ← get
  if first.kind == .block && !startsDot tokens && !startsPunct "?" tokens then
    return first.withAttributes attributes
  else
    let operand ← if first.kind == .block then grammar.accessed first else pure first
    grammar.operations true .loosest (operand.withAttributes attributes)

end SchemaMatch.Derive.Grammar
