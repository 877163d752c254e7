import SchemaMatch.Proofs.Success
import SchemaMatch.Proofs.Syntax.Bare

/-!
# Nesting depth without places

Whether a tree is too deep does not depend on places, and a tree that is refused for its depth is
refused for nothing else.
-/

namespace SchemaMatch.Syntax

variable {limit : Nat}

def IsTooDeep (limit : Nat) (checked : Except SyntaxError Unit) : Prop :=
  ∃ span, checked = .error ⟨.nestLimitExceeded limit, span, none⟩

/-- Of two checks, both pass, or both refuse for depth. -/
def AgreeOnDepth (limit : Nat) (one other : Except SyntaxError Unit) : Prop :=
  (one = .ok () ∧ other = .ok ()) ∨ (IsTooDeep limit one ∧ IsTooDeep limit other)

namespace AgreeOnDepth

theorem ok : AgreeOnDepth limit (.ok ()) (.ok ()) := .inl ⟨rfl, rfl⟩

theorem checkDepth (depth : Nat) (span place : Span) :
    AgreeOnDepth limit (checkDepth limit depth span) (checkDepth limit depth place) := by
  unfold Syntax.checkDepth
  split
  · exact ok
  · exact .inr ⟨⟨span, rfl⟩, ⟨place, rfl⟩⟩

theorem bind {one other first second : Except SyntaxError Unit}
    (heads : AgreeOnDepth limit one other) (rests : AgreeOnDepth limit first second) :
    AgreeOnDepth limit (one >>= fun _ => first) (other >>= fun _ => second) := by
  rcases heads with ⟨rfl, rfl⟩ | ⟨⟨span, rfl⟩, ⟨place, rfl⟩⟩
  · exact rests
  · exact .inr ⟨⟨span, rfl⟩, ⟨place, rfl⟩⟩

end AgreeOnDepth

mutual

theorem ClassSet.agreeOnDepth_bare (depth : Nat) : (set : ClassSet) →
    AgreeOnDepth limit (set.checkNesting limit depth) (set.bare.checkNesting limit depth)
  | .empty _ => .ok
  | .literal _ => .ok
  | .range _ _ _ => .ok
  | .ascii _ => .ok
  | .property _ => .ok
  | .perl _ => .ok
  | .bracketed _ _ body => (AgreeOnDepth.checkDepth ..).bind (body.agreeOnDepth_bare _)
  | .union _ items => (AgreeOnDepth.checkDepth ..).bind (ClassSet.agreeOnDepth_bareAll _ items)
  | .binary _ _ lhs rhs =>
    (AgreeOnDepth.checkDepth ..).bind ((lhs.agreeOnDepth_bare _).bind (rhs.agreeOnDepth_bare _))

theorem ClassSet.agreeOnDepth_bareAll (depth : Nat) : (items : List ClassSet) →
    AgreeOnDepth limit (ClassSet.checkNestingAll limit depth items)
      (ClassSet.checkNestingAll limit depth (ClassSet.bareAll items))
  | [] => .ok
  | item :: rest => (item.agreeOnDepth_bare _).bind (ClassSet.agreeOnDepth_bareAll _ rest)

end

mutual

theorem Ast.agreeOnDepth_bare (depth : Nat) : (ast : Ast) →
    AgreeOnDepth limit (ast.checkNesting limit depth) (ast.bare.checkNesting limit depth)
  | .empty _ => .ok
  | .flags _ _ => .ok
  | .literal _ => .ok
  | .dot _ => .ok
  | .assertion _ _ => .ok
  | .property _ => .ok
  | .perl _ => .ok
  | .bracketed _ _ body => (AgreeOnDepth.checkDepth ..).bind (body.agreeOnDepth_bare _)
  | .repetition _ _ _ sub => (AgreeOnDepth.checkDepth ..).bind (sub.agreeOnDepth_bare _)
  | .group _ _ sub => (AgreeOnDepth.checkDepth ..).bind (sub.agreeOnDepth_bare _)
  | .alternation _ branches =>
    (AgreeOnDepth.checkDepth ..).bind (Ast.agreeOnDepth_bareAll _ branches)
  | .concat _ items => (AgreeOnDepth.checkDepth ..).bind (Ast.agreeOnDepth_bareAll _ items)

theorem Ast.agreeOnDepth_bareAll (depth : Nat) : (items : List Ast) →
    AgreeOnDepth limit (Ast.checkNestingAll limit depth items)
      (Ast.checkNestingAll limit depth (Ast.bareAll items))
  | [] => .ok
  | item :: rest => (item.agreeOnDepth_bare _).bind (Ast.agreeOnDepth_bareAll _ rest)

end

theorem Ast.checkNesting_of_bare {ast other : Ast} (same : other.bare = ast.bare) {depth : Nat}
    (passes : ast.checkNesting limit depth = .ok ()) :
    other.checkNesting limit depth = .ok () := by
  rcases ast.agreeOnDepth_bare depth with ⟨_, bare⟩ | ⟨⟨span, deep⟩, _⟩
  · rw [← same] at bare
    rcases other.agreeOnDepth_bare depth with ⟨shallow, _⟩ | ⟨_, ⟨span, deep⟩⟩
    · exact shallow
    · rw [bare] at deep
      cases deep
  · rw [passes] at deep
    cases deep

theorem Ast.isTooDeep_of_ne_ok {ast : Ast} {depth : Nat}
    (fails : ast.checkNesting limit depth ≠ .ok ()) :
    IsTooDeep limit (ast.checkNesting limit depth) := by
  rcases ast.agreeOnDepth_bare depth with ⟨passes, _⟩ | ⟨deep, _⟩
  · exact absurd passes fails
  · exact deep

theorem parse_eq_ok_iff {options : Options} {text : String} {ast : Ast} :
    Ast.parse options text = .ok ast ↔
      (Reader.ofString options.ignoreWhitespace text).run options.octal text.toList.length =
          .ok ast ∧
        ast.checkNesting options.nestLimit 0 = .ok () := by
  simp only [Ast.parse, bind_eq_ok_iff]
  constructor
  · rintro ⟨found, read, _, passes, equal⟩
    cases equal
    exact ⟨read, passes⟩
  · rintro ⟨read, passes⟩
    exact ⟨ast, read, (), passes, rfl⟩

end SchemaMatch.Syntax
