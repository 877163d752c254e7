import SchemaMatch.Expr.Basic
import SchemaMatch.Proofs.Expr.SelfContained
import SchemaMatch.Regex.Basic

/-!
# Conditions on trees

A condition on all nodes of a tree is one on its root and one on all nodes of each part. A tree that
can be rendered and read back is sound in all nodes and has its captures numbered in order.
-/

namespace SchemaMatch

namespace Expr

def OnNodes (condition : Expr → Prop) (expr : Expr) : Prop :=
  ∀ node ∈ expr.nodes, condition node

def OnAllNodes (condition : Expr → Prop) (exprs : List Expr) : Prop :=
  ∀ node ∈ nodesAll exprs, condition node

section OnNodes

variable {condition : Expr → Prop}

@[simp] theorem onNodes_fragment {text : String} :
    (fragment text).OnNodes condition ↔ condition (fragment text) := by
  simp [OnNodes, nodes]

@[simp] theorem onNodes_concat {parts : List Expr} :
    (concat parts).OnNodes condition ↔ condition (concat parts) ∧ OnAllNodes condition parts := by
  simp [OnNodes, OnAllNodes, nodes]

@[simp] theorem onNodes_capture {slot : Nat} {name : String} {expr : Expr} :
    (capture slot name expr).OnNodes condition ↔
      condition (capture slot name expr) ∧ expr.OnNodes condition := by
  simp [OnNodes, nodes]

@[simp] theorem onNodes_optional {expr : Expr} :
    (optional expr).OnNodes condition ↔ condition (optional expr) ∧ expr.OnNodes condition := by
  simp [OnNodes, nodes]

@[simp] theorem onNodes_alternation {parts : List Expr} :
    (alternation parts).OnNodes condition ↔
      condition (alternation parts) ∧ OnAllNodes condition parts := by
  simp [OnNodes, OnAllNodes, nodes]

@[simp] theorem onAllNodes_nil : OnAllNodes condition [] := nofun

@[simp] theorem onAllNodes_cons {expr : Expr} {rest : List Expr} :
    OnAllNodes condition (expr :: rest) ↔
      expr.OnNodes condition ∧ OnAllNodes condition rest := by
  simp only [OnAllNodes, OnNodes, nodesAll, List.mem_append]
  constructor
  · intro every
    exact ⟨fun node member => every node (.inl member), fun node member => every node (.inr member)⟩
  · rintro ⟨first, others⟩ node (member | member)
    · exact first node member
    · exact others node member

end OnNodes

/-- Whether a tree is a capture or a choice, which is printed in one pair of parentheses. -/
def isEnclosed : Expr → Bool
  | capture _ _ _ => true
  | alternation _ => true
  | _ => false

/-- A node that reads back: a fragment is self-contained and means something, what is optional is
enclosed, and a choice is one between captures. -/
def IsSound (options : Options) : Expr → Prop
  | fragment text =>
    Fragment.IsSelfContained options text ∧ ∃ term, Regex.Term.parse options text = .ok term
  | optional expr => expr.isEnclosed = true
  | alternation parts => ∀ part ∈ parts, part.capture?.isSome = true
  | _ => True

def HasBranches : Expr → Prop
  | alternation parts => parts ≠ []
  | _ => True

mutual

/-- The captures inside a tree have the slots from one on up to another, in order. -/
def Numbered (first : Nat) : Expr → Nat → Prop
  | fragment _, next => next = first
  | concat parts, next => NumberedAll first parts next
  | capture slot _ expr, next => slot = first ∧ slot ≠ 0 ∧ Numbered (first + 1) expr next
  | optional expr, next => Numbered first expr next
  | alternation parts, next => NumberedAll first parts next

/-- The captures of trees one after another have the slots from one on up to another. -/
def NumberedAll (first : Nat) : List Expr → Nat → Prop
  | [], next => next = first
  | expr :: rest, next => ∃ middle, Numbered first expr middle ∧ NumberedAll middle rest next

end

end Expr

end SchemaMatch
