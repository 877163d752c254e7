import SchemaMatch.Regex.Basic
import SchemaMatch.Syntax.Printer
import SchemaMatch.Syntax.Transform

/-!
# Fragments

A fragment is a pattern that a field is declared with. Its normal form captures nothing: every
capturing group is made a plain one, and the result is printed. A fragment is refused if it is not
a pattern, or if its normal form has no meaning under the options.
-/

namespace SchemaMatch.Fragment

open Syntax (Ast SyntaxError)

def stripped (options : Options) (pattern : String) : Except SyntaxError String := do
  let ast ← Ast.parse options pattern
  .ok ast.stripCaptures.render

/-- The normal form of a fragment. -/
def normalize (options : Options) (pattern : String) : Except SyntaxError String := do
  let text ← stripped options pattern
  let _ ← Regex.Term.parse options text
  .ok text

end SchemaMatch.Fragment
