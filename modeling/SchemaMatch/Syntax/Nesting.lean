import SchemaMatch.Syntax.Ast
import SchemaMatch.Syntax.Error

/-!
# Nesting depth

Every part of a pattern that contains other parts is one level deeper than what contains it. A
pattern is refused at the first part, in reading order, that is deeper than the limit.
-/

namespace SchemaMatch.Syntax

/-- Refuses a part inside `depth` others if that is too deep. -/
def checkDepth (limit depth : Nat) (span : Span) : Except SyntaxError Unit :=
  if depth < limit then .ok () else .error ⟨.nestLimitExceeded limit, span, none⟩

mutual

def ClassSet.checkNesting (limit depth : Nat) : ClassSet → Except SyntaxError Unit
  | .bracketed span _ body => do
    checkDepth limit depth span
    body.checkNesting limit (depth + 1)
  | .union span items => do
    checkDepth limit depth span
    ClassSet.checkNestingAll limit (depth + 1) items
  | .binary span _ lhs rhs => do
    checkDepth limit depth span
    lhs.checkNesting limit (depth + 1)
    rhs.checkNesting limit (depth + 1)
  | _ => .ok ()

/-- Checks the depth of several parts of a class, in order. -/
def ClassSet.checkNestingAll (limit depth : Nat) : List ClassSet → Except SyntaxError Unit
  | [] => .ok ()
  | item :: rest => do
    item.checkNesting limit depth
    ClassSet.checkNestingAll limit depth rest

end

mutual

def Ast.checkNesting (limit depth : Nat) : Ast → Except SyntaxError Unit
  | .bracketed span _ body => do
    checkDepth limit depth span
    body.checkNesting limit (depth + 1)
  | .repetition span _ _ sub => do
    checkDepth limit depth span
    sub.checkNesting limit (depth + 1)
  | .group span _ sub => do
    checkDepth limit depth span
    sub.checkNesting limit (depth + 1)
  | .alternation span branches => do
    checkDepth limit depth span
    Ast.checkNestingAll limit (depth + 1) branches
  | .concat span items => do
    checkDepth limit depth span
    Ast.checkNestingAll limit (depth + 1) items
  | _ => .ok ()

/-- Checks the depth of several parts of a pattern, in order. -/
def Ast.checkNestingAll (limit depth : Nat) : List Ast → Except SyntaxError Unit
  | [] => .ok ()
  | item :: rest => do
    item.checkNesting limit depth
    Ast.checkNestingAll limit depth rest

end

end SchemaMatch.Syntax
