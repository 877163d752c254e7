import SchemaMatch.Proofs.Syntax.Groups
import SchemaMatch.Syntax.Printer
import SchemaMatch.Syntax.Transform

/-!
# Trees without captures

Stripping captures goes through a tree and changes the opening of each group that captures, and
nothing else: an item can be repeated as before, the tree is as deep as before, and it captures
nothing.
-/

namespace SchemaMatch.Syntax

/-- The opening of the same group without a capture. -/
def GroupKind.strip (span : Span) : GroupKind → GroupKind
  | captureIndex _ => nonCapturing ⟨span, []⟩
  | captureName _ _ => nonCapturing ⟨span, []⟩
  | nonCapturing flags => nonCapturing flags

/-- Whether blanks are skipped in a group does not depend on its capture. -/
@[simp] theorem GroupKind.verbose_strip (kind : GroupKind) (span : Span) (outside : Bool) :
    (kind.strip span).verbose outside = kind.verbose outside := by
  cases kind <;> rfl

theorem GroupKind.strip_bare (kind : GroupKind) (span place : Span) :
    (kind.strip span).bare = (kind.strip place).bare := by
  cases kind <;> rfl

theorem GroupKind.print_strip (kind : GroupKind) (span place : Span) :
    (kind.strip span).print = (kind.strip place).print := by
  cases kind <;> rfl

namespace Ast

theorem transformAllM_stripCapture (items : List Ast) :
    Id.run (transformAllM (fun node => pure (stripCapture node)) items) =
      items.map stripCaptures := by
  induction items with
  | nil => rfl
  | cons item rest ih =>
    rw [List.map_cons, ← ih]
    rfl

@[simp] theorem stripCaptures_repetition (span : Span) (kind : RepetitionKind) (greedy : Bool)
    (sub : Ast) :
    (repetition span kind greedy sub).stripCaptures =
      repetition span kind greedy sub.stripCaptures := rfl

@[simp] theorem stripCaptures_group (span : Span) (kind : GroupKind) (sub : Ast) :
    (group span kind sub).stripCaptures = group span (kind.strip span) sub.stripCaptures := by
  cases kind <;> rfl

@[simp] theorem stripCaptures_alternation (span : Span) (branches : List Ast) :
    (alternation span branches).stripCaptures =
      alternation span (branches.map stripCaptures) := by
  rw [← transformAllM_stripCapture]
  rfl

@[simp] theorem stripCaptures_concat (span : Span) (items : List Ast) :
    (concat span items).stripCaptures = concat span (items.map stripCaptures) := by
  rw [← transformAllM_stripCapture]
  rfl

@[simp] theorem isRepeatable_stripCaptures (ast : Ast) :
    Repetition.isRepeatable ast.stripCaptures = Repetition.isRepeatable ast := by
  cases ast with
  | group span kind sub =>
    rw [stripCaptures_group]
    rfl
  | alternation span branches =>
    rw [stripCaptures_alternation]
    rfl
  | concat span items =>
    rw [stripCaptures_concat]
    rfl
  | _ => rfl

theorem operand_stripCaptures {reversed before : List Ast} {sub : Ast} {cursor : Cursor}
    (success : Repetition.operand reversed cursor = .ok (sub, before)) :
    Repetition.operand (reversed.map stripCaptures) cursor =
      .ok (sub.stripCaptures, before.map stripCaptures) := by
  match reversed with
  | [] => cases success
  | first :: rest =>
    simp only [Repetition.operand, List.map_cons, isRepeatable_stripCaptures] at success ⊢
    split at success
    · rename_i repeatable
      cases success
      rw [if_pos repeatable]
    · cases success

mutual

theorem checkNesting_stripCaptures (limit depth : Nat) : (ast : Ast) →
    ast.stripCaptures.checkNesting limit depth = ast.checkNesting limit depth
  | .empty _ => rfl
  | .flags _ _ => rfl
  | .literal _ => rfl
  | .dot _ => rfl
  | .assertion _ _ => rfl
  | .property _ => rfl
  | .perl _ => rfl
  | .bracketed _ _ _ => rfl
  | .repetition _ _ _ sub => by
    simp only [stripCaptures_repetition, checkNesting, sub.checkNesting_stripCaptures]
  | .group _ _ sub => by
    simp only [stripCaptures_group, checkNesting, sub.checkNesting_stripCaptures]
  | .alternation _ branches => by
    simp only [stripCaptures_alternation, checkNesting,
      checkNestingAll_stripCaptures limit _ branches]
  | .concat _ items => by
    simp only [stripCaptures_concat, checkNesting, checkNestingAll_stripCaptures limit _ items]

theorem checkNestingAll_stripCaptures (limit depth : Nat) : (items : List Ast) →
    checkNestingAll limit depth (items.map stripCaptures) = checkNestingAll limit depth items
  | [] => rfl
  | item :: rest => by
    simp only [List.map_cons, checkNestingAll, item.checkNesting_stripCaptures,
      checkNestingAll_stripCaptures limit depth rest]

end

mutual

theorem groups_stripCaptures : (ast : Ast) → ast.stripCaptures.groups = []
  | .empty _ => rfl
  | .flags _ _ => rfl
  | .literal _ => rfl
  | .dot _ => rfl
  | .assertion _ _ => rfl
  | .property _ => rfl
  | .perl _ => rfl
  | .bracketed _ _ _ => rfl
  | .repetition _ _ _ sub => sub.groups_stripCaptures
  | .group _ kind sub => by
    rw [stripCaptures_group, groups, sub.groups_stripCaptures]
    cases kind <;> rfl
  | .alternation _ branches => by
    rw [stripCaptures_alternation]
    exact groupsAll_stripCaptures branches
  | .concat _ items => by
    rw [stripCaptures_concat]
    exact groupsAll_stripCaptures items

theorem groupsAll_stripCaptures : (items : List Ast) →
    groupsAll (items.map stripCaptures) = []
  | [] => rfl
  | item :: rest => by
    rw [List.map_cons, groupsAll, item.groups_stripCaptures, groupsAll_stripCaptures rest]
    rfl

end

end Ast

end SchemaMatch.Syntax
