import SchemaMatch.Compilation
import SchemaMatch.Regex.Basic

/-!
# Patterns

A pattern is a schema that has been compiled and whose composed pattern the engine has accepted.
-/

namespace SchemaMatch

/-- A compiled schema. -/
structure Pattern where
  stencil : Stencil
  expr : Expr
  regex : Regex
  options : Options

namespace Pattern

variable [Regex.SizeMeasure]

/-- Makes a pattern of a compiled schema. -/
def build (options : Options) (stencil : Stencil) (expr : Expr) : Except CompileError Pattern :=
  match Regex.compile options (expr.renderWith options.swapGreed) with
  | .error error => .error (.engine stencil.name error.message)
  | .ok regex =>
    if regex.groupCount = expr.captureCount then .ok ⟨stencil, expr, regex, options⟩
    else .error (.slotCountMismatch stencil.name expr.captureCount regex.groupCount)

/-- Compiles a schema to a pattern. -/
def compile (scope : Scope) (root : SchemaId) : Except CompileError Pattern := do
  let (stencil, expr) ← scope.compile root
  build scope.options stencil expr

/-- The text of the composed pattern. -/
def text (pattern : Pattern) : String := pattern.regex.pattern

/-- The number of slots. -/
def slotCount (pattern : Pattern) : Nat := pattern.regex.groupCount

end Pattern

end SchemaMatch
