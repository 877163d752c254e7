import SchemaMatch.Derive.Reader

/-!
# The kinds of syntax

Types, bounds, expressions, patterns, statements and items contain one another. A grammar has a
reader of each kind. The modules beside this one say how a kind is read when a given grammar reads
what it contains; a grammar that reads to any depth is then made level by level.

Of what is read only what the rules of the grammar ask for is kept, with the tokens in the form in
which they are written out again.
-/

namespace SchemaMatch.Derive

inductive PathForm
  /-- One name, with arguments in angle brackets or none. -/
  | single
  | long
  /-- A path that starts from a type in angle brackets. -/
  | qualified
  deriving DecidableEq, Repr

inductive TypeShape
  /-- A path with its last name and the first type among the arguments in angle brackets. -/
  | path (form : PathForm) (name : String) (argument : Option TypeShape)
  /-- A single bound without a keyword, with its tokens but for parentheses around them. -/
  | bound (tokens : List Token)
  | other
  deriving Repr

def TypeShape.lastSegment? : TypeShape → Option (String × Option TypeShape)
  | path _ name argument => some (name, argument)
  | bound _ => none
  | other => none

structure TypeSyntax where
  shape : TypeShape
  tokens : List Token
  deriving Repr

/-- A type of which only the tokens are kept. -/
def TypeSyntax.ofTokens (tokens : List Token) : TypeSyntax := ⟨.other, tokens⟩

inductive BoundKind
  | lifetime
  /-- The parameters that a hidden type may use. -/
  | capture
  | trait
  /-- A trait that holds in constants, kept as it is written. -/
  | constant
  deriving DecidableEq, Repr

structure Bound where
  kind : BoundKind
  tokens : List Token
  deriving Repr

inductive BoundPlace
  /-- In a type of objects. -/
  | object
  /-- At a parameter, in a condition, or at a declared type. -/
  | declaration
  /-- In a hidden type. -/
  | hidden
  deriving DecidableEq, Repr

def BoundPlace.allowsConstants (place : BoundPlace) : Bool := place != .object

def BoundPlace.allowsCaptures (place : BoundPlace) : Bool := place == .hidden

/-- How tightly an operator binds, from loose to tight. -/
inductive Precedence
  | loosest
  | assignment
  | range
  | disjunction
  | conjunction
  | comparison
  | bitOr
  | bitXor
  | bitAnd
  | shift
  | sum
  | product
  | cast
  /-- Tighter than any operator between two operands. -/
  | operand
  deriving DecidableEq, Repr

namespace Precedence

def rank : Precedence → Nat
  | loosest => 0
  | assignment => 1
  | range => 2
  | disjunction => 3
  | conjunction => 4
  | comparison => 5
  | bitOr => 6
  | bitXor => 7
  | bitAnd => 8
  | shift => 9
  | sum => 10
  | product => 11
  | cast => 12
  | operand => 13

/-- How tightly the right operand of an operator must bind. Assignments group to the right and
other operators to the left. -/
def ofRightOperand : Precedence → Precedence
  | loosest => assignment
  | assignment => assignment
  | range => disjunction
  | disjunction => conjunction
  | conjunction => comparison
  | comparison => bitOr
  | bitOr => bitXor
  | bitXor => bitAnd
  | bitAnd => shift
  | shift => sum
  | sum => product
  | product => cast
  | cast => operand
  | operand => operand

/-- Whether an operator may be read where operators must bind as tightly as another. -/
def admits (least precedence : Precedence) : Bool := least.rank ≤ precedence.rank

end Precedence

/-- What an expression is, where a rule asks for it. -/
inductive ExpressionKind
  | range
  /-- A comparison that stands in no parentheses. -/
  | comparison
  /-- What ends in its block, so that nothing need stand before a further statement. -/
  | block
  | other
  deriving DecidableEq, Repr

structure Expression where
  kind : ExpressionKind
  /-- Whether its first operand is kept as it is written, so that attributes put in front of it are
  lost. -/
  isFixed : Bool
  tokens : List Token
  deriving Repr

namespace Expression

/-- An expression of no special kind. -/
def ofTokens (tokens : List Token) : Expression := ⟨.other, false, tokens⟩

def ofBlock (tokens : List Token) : Expression := ⟨.block, false, tokens⟩

def asWritten (tokens : List Token) : Expression := ⟨.other, true, tokens⟩

def withAttributes (attributes : List Token) (expression : Expression) : Expression :=
  if expression.isFixed then expression
  else { expression with tokens := attributes ++ expression.tokens }

end Expression

/-- What a pattern is, where a rule asks for it. -/
inductive PatternKind
  /-- Two dots for all that is left. -/
  | rest
  /-- A range without a lower or an upper end. -/
  | openRange
  /-- A pattern that is kept as it is written, so that attributes put in front of it are lost. -/
  | fixed
  | other
  deriving DecidableEq, Repr

/-- A pattern. -/
structure Pattern where
  kind : PatternKind
  tokens : List Token
  deriving Repr

/-- A pattern of no special kind. -/
def Pattern.ofTokens (tokens : List Token) : Pattern := ⟨.other, tokens⟩

/-- A reader of each kind of syntax. -/
structure Grammar where
  /-- Reads a type, in which bounds may be joined by plus signs only if so told. -/
  type : Bool → Reader TypeSyntax
  bound : BoundPlace → Reader Bound
  /-- Reads an expression with operators that bind as tightly as told, in which a path may have
  fields in braces only if so told. -/
  expression : Bool → Precedence → Reader Expression
  /-- Reads an expression that stands as a statement, which ends with its block if it has one. -/
  statementExpression : Reader Expression
  /-- Reads a pattern without bars outside parentheses. -/
  pattern : Reader Pattern
  /-- Reads statements up to the end. -/
  statements : Reader (List Token)
  item : Reader (List Token)

namespace Grammar

def empty : Grammar where
  type _ := failure
  bound _ := failure
  expression _ _ := failure
  statementExpression := failure
  pattern := failure
  statements := failure
  item := failure

def anyExpression (grammar : Grammar) : Reader (List Token) :=
  return (← grammar.expression true .loosest).tokens

def headExpression (grammar : Grammar) : Reader (List Token) :=
  return (← grammar.expression false .loosest).tokens

def typeTokens (grammar : Grammar) (plus : Bool) : Reader (List Token) :=
  return (← grammar.type plus).tokens

def block (grammar : Grammar) : Reader (List Token) := Reader.group .brace grammar.statements

end Grammar

end SchemaMatch.Derive
