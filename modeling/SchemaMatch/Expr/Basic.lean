/-!
# Pattern trees

The pattern of a schema is composed as a tree of fragments. A capture names the slot that its text
goes to; slot zero is the whole match. The tree renders as one pattern in which each other capture
is one group, in order of the slots that the compiler gives out.
-/

namespace SchemaMatch

/-- A composed pattern. -/
inductive Expr
  /-- A pattern of its own, which captures nothing. -/
  | fragment (text : String)
  /-- One after another. -/
  | concat (items : List Expr)
  | capture (slot : Nat) (name : String) (expr : Expr)
  /-- Once or not at all, preferring once. -/
  | optional (expr : Expr)
  /-- The first that matches. -/
  | alternation (branches : List Expr)
  deriving Repr, BEq

namespace Expr

def empty : Expr := concat []

def children : Expr → List Expr
  | fragment _ => []
  | concat items => items
  | capture _ _ expr => [expr]
  | optional expr => [expr]
  | alternation branches => branches

mutual

/-- All nodes of a tree, each before its parts. -/
def nodes : Expr → List Expr
  | fragment text => [fragment text]
  | concat items => concat items :: nodesAll items
  | capture slot name expr => capture slot name expr :: nodes expr
  | optional expr => optional expr :: nodes expr
  | alternation branches => alternation branches :: nodesAll branches

def nodesAll : List Expr → List Expr
  | [] => []
  | expr :: rest => nodes expr ++ nodesAll rest

end

def capture? : Expr → Option (Nat × String)
  | capture slot name _ => some (slot, name)
  | _ => none

/-- The slots and names of all captures, each before those inside it. -/
def captures (expr : Expr) : List (Nat × String) := expr.nodes.filterMap capture?

/-- The number of captures. -/
def captureCount (expr : Expr) : Nat := expr.captures.length

/-- The operator of an optional part. Where greed is swapped, the lazy operator is the greedy
one. -/
def optionalMark (swapGreed : Bool) : List Char := if swapGreed then ['?', '?'] else ['?']

mutual

/-- The pattern of a tree, as characters. -/
def print (swapGreed : Bool) : Expr → List Char
  | fragment text =>
    if text.isEmpty then [] else '(' :: '?' :: ':' :: text.toList ++ [')']
  | concat items => printAll swapGreed items
  | capture slot _ expr =>
    if slot == 0 then print swapGreed expr else '(' :: print swapGreed expr ++ [')']
  | optional expr =>
    '(' :: '?' :: ':' :: print swapGreed expr ++ ')' :: optionalMark swapGreed
  | alternation branches => '(' :: '?' :: ':' :: printBranches swapGreed branches ++ [')']

def printAll (swapGreed : Bool) : List Expr → List Char
  | [] => []
  | expr :: rest => print swapGreed expr ++ printAll swapGreed rest

def printBranches (swapGreed : Bool) : List Expr → List Char
  | [] => []
  | [branch] => print swapGreed branch
  | branch :: next :: rest =>
    print swapGreed branch ++ '|' :: printBranches swapGreed (next :: rest)

end

/-- The pattern of a tree, for matching with or without greed swapped. -/
def renderWith (swapGreed : Bool) (expr : Expr) : String := String.ofList (expr.print swapGreed)

/-- The pattern of a tree. -/
def render (expr : Expr) : String := expr.renderWith false

end Expr

end SchemaMatch
