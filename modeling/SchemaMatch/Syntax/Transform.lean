import SchemaMatch.Syntax.Ast

/-!
# Transforming a tree

A transformation calls back once for each node, children before their parent and in reading order,
and puts in its place what the call returns; a call on a parent sees what became of its children. A
bracketed class is one node. Stripping captures is the transformation that turns each capturing
group into a group that captures nothing and switches no flags.
-/

namespace SchemaMatch.Syntax

namespace Ast

variable {m : Type → Type} [Monad m]

mutual

/-- Calls back for each node of a tree, children first. -/
def transformM (f : Ast → m Ast) : Ast → m Ast
  | .repetition span kind greedy sub => do f (.repetition span kind greedy (← transformM f sub))
  | .group span kind sub => do f (.group span kind (← transformM f sub))
  | .alternation span branches => do f (.alternation span (← transformAllM f branches))
  | .concat span items => do f (.concat span (← transformAllM f items))
  | leaf => f leaf

/-- Calls back for each node of several trees, in order. -/
def transformAllM (f : Ast → m Ast) : List Ast → m (List Ast)
  | [] => pure []
  | item :: rest => do
    let item ← transformM f item
    return item :: (← transformAllM f rest)

end

/-- Replaces each node of a tree, children first. -/
def transform (f : Ast → Ast) (ast : Ast) : Ast :=
  Id.run (transformM (fun node => pure (f node)) ast)

/-- The nodes in the order in which a transformation that changes nothing calls back. -/
def visited (ast : Ast) : List Ast :=
  let visit (node : Ast) : StateM (List Ast) Ast := do
    modify (node :: ·)
    return node
  ((transformM visit ast).run []).2.reverse

def stripCapture : Ast → Ast
  | .group span (.captureIndex _) sub => .group span (.nonCapturing ⟨span, []⟩) sub
  | .group span (.captureName _ _) sub => .group span (.nonCapturing ⟨span, []⟩) sub
  | other => other

/-- The same tree without captures. -/
def stripCaptures (ast : Ast) : Ast := ast.transform stripCapture

end Ast

end SchemaMatch.Syntax
