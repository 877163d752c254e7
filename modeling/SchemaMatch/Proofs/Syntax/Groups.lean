import SchemaMatch.Proofs.Syntax.Bare
import SchemaMatch.Proofs.Syntax.Gather

/-!
# The capturing groups of a tree

The groups of a pattern nest. What is read stays in the tree, so a tree without groups comes from a
reader that never opened one.
-/

namespace SchemaMatch.Syntax

/-- A capturing group and those inside it, in the order in which they open. -/
inductive Group
  | node (index : Nat) (inside : List Group)
  deriving Repr

mutual

def Group.indices : Group → List Nat
  | .node index inside => index :: Group.indicesAll inside

/-- The indices of several groups. -/
def Group.indicesAll : List Group → List Nat
  | [] => []
  | group :: rest => group.indices ++ Group.indicesAll rest

end

theorem Group.indicesAll_append (some more : List Group) :
    Group.indicesAll (some ++ more) = Group.indicesAll some ++ Group.indicesAll more := by
  induction some with
  | nil => rfl
  | cons group rest ih =>
    rw [List.cons_append, Group.indicesAll, Group.indicesAll, ih, List.append_assoc]

/-- The index of a capturing group. -/
def GroupKind.index? : GroupKind → Option Nat
  | captureIndex index => some index
  | captureName _ name => some name.index
  | nonCapturing _ => none

def GroupKind.around (kind : GroupKind) (inside : List Group) : List Group :=
  match kind.index? with
  | some index => [.node index inside]
  | none => inside

mutual

/-- The capturing groups of a tree. -/
def Ast.groups : Ast → List Group
  | .repetition _ _ _ sub => sub.groups
  | .group _ kind sub => kind.around sub.groups
  | .alternation _ branches => Ast.groupsAll branches
  | .concat _ items => Ast.groupsAll items
  | _ => []

def Ast.groupsAll : List Ast → List Group
  | [] => []
  | item :: rest => item.groups ++ Ast.groupsAll rest

end

theorem Ast.groupsAll_eq_flatMap (items : List Ast) :
    Ast.groupsAll items = items.flatMap Ast.groups := by
  induction items with
  | nil => rfl
  | cons item rest ih => rw [Ast.groupsAll, ih, List.flatMap_cons]

theorem Ast.gathers_groups : Gathers Ast.groups :=
  ⟨fun _ => rfl, fun _ branches => groupsAll_eq_flatMap branches,
    fun _ items => groupsAll_eq_flatMap items⟩

@[simp] theorem GroupKind.around_bare (kind : GroupKind) (inside : List Group) :
    kind.bare.around inside = kind.around inside := by
  cases kind <;> rfl

mutual

@[simp] theorem Ast.groups_bare : (ast : Ast) → ast.bare.groups = ast.groups
  | .empty _ => rfl
  | .flags _ _ => rfl
  | .literal _ => rfl
  | .dot _ => rfl
  | .assertion _ _ => rfl
  | .property _ => rfl
  | .perl _ => rfl
  | .bracketed _ _ _ => rfl
  | .repetition _ _ _ sub => sub.groups_bare
  | .group _ kind sub => by
    simp only [Ast.bare, Ast.groups, GroupKind.around_bare, sub.groups_bare]
  | .alternation _ branches => Ast.groupsAll_bare branches
  | .concat _ items => Ast.groupsAll_bare items

theorem Ast.groupsAll_bare : (items : List Ast) →
    Ast.groupsAll (Ast.bareAll items) = Ast.groupsAll items
  | [] => rfl
  | item :: rest => by
    simp only [Ast.bareAll, Ast.groupsAll, item.groups_bare, Ast.groupsAll_bare rest]

end

/-- Trees that are equal but for places have the same groups. -/
theorem Ast.groups_of_bare {ast other : Ast} (same : other.bare = ast.bare) :
    other.groups = ast.groups := by
  rw [← Ast.groups_bare, same, Ast.groups_bare]

namespace Level

/-- The groups of a level: those of the branches before the one that is read, and those of that
one. -/
def groups (level : Level) : List Group :=
  (((level.earlier.map Prod.snd).getD []).reverse.flatMap Ast.groups) ++
    level.reversed.reverse.flatMap Ast.groups

@[simp] theorem groups_toAst (level : Level) (stop : Position) :
    (level.toAst stop).groups = level.groups :=
  gather_toAst Ast.gathers_groups level stop

@[simp] theorem groups_push (level : Level) (item : Ast) :
    (level.push item).groups = level.groups ++ item.groups :=
  gather_push Ast.groups level item

@[simp] theorem groups_nextBranch (level : Level) (bar : Cursor) :
    (level.nextBranch bar).groups = level.groups :=
  gather_nextBranch Ast.gathers_groups level bar

end Level

namespace Reader

/-- Nothing that has been read or opened captures. -/
structure IsPlain (reader : Reader) : Prop where
  level : reader.level.groups = []
  frames : ∀ frame ∈ reader.frames, frame.outer.groups = [] ∧ frame.kind.index? = none

theorem isPlain_of_push {reader : Reader} {item : Ast} {cursor : Cursor}
    (plain : (reader.push item cursor).IsPlain) : reader.IsPlain := by
  have level := plain.level
  rw [push, Level.groups_push, List.append_eq_nil_iff] at level
  exact ⟨level.1, plain.frames⟩

theorem isPlain_of_repeated {reader : Reader} {found : List Ast × Cursor}
    (applied : Repetition.Applied reader.level.reversed found)
    (plain : (reader.repeated found).IsPlain) : reader.IsPlain := by
  obtain ⟨sub, before, kind, greedy, items, result⟩ := applied
  have level := plain.level
  refine ⟨?_, plain.frames⟩
  simpa only [repeated, Level.groups, items, result, Repetition.apply, List.reverse_cons,
    List.flatMap_append, List.flatMap_cons, List.flatMap_nil, Ast.groups] using level

/-- What has been read stays: a reader that captures nothing after a step did not before it. -/
theorem isPlain_of_step {octalAllowed : Bool} {c : Char} {reader result : Reader}
    (success : reader.step octalAllowed c = .ok result) (plain : result.IsPlain) :
    reader.IsPlain := by
  simp only [step] at success
  split at success
  · simp only [opening] at success
    obtain ⟨⟨found, cursor⟩, _, success⟩ := bind_eq_ok_iff.1 success
    cases found with
    | flags span list =>
      cases success
      exact isPlain_of_push plain
    | group span kind =>
      cases success
      have frames := plain.frames
      exact ⟨(frames _ List.mem_cons_self).1,
        fun frame member => frames frame (List.mem_cons_of_mem _ member)⟩
  · simp only [closing] at success
    split at success
    · cases success
    · rename_i frame frames opened
      cases success
      have level := plain.level
      rw [Level.groups_push, List.append_eq_nil_iff] at level
      obtain ⟨outer, group⟩ := level
      simp only [Ast.groups, GroupKind.around, Level.groups_toAst] at group
      cases kind : frame.kind.index? with
      | some index =>
        rw [kind] at group
        cases group
      | none =>
        rw [kind] at group
        refine ⟨group, fun other member => ?_⟩
        rw [opened] at member
        rcases List.mem_cons.1 member with rfl | member
        · exact ⟨outer, kind⟩
        · exact plain.frames other member
  · cases success
    refine ⟨?_, plain.frames⟩
    simpa only [Level.groups_nextBranch] using plain.level
  · obtain ⟨_, _, success⟩ := bind_eq_ok_iff.1 success
    cases success
    exact isPlain_of_push plain
  · obtain ⟨found, parsed, rfl⟩ := map_eq_ok_iff.1 success
    exact isPlain_of_repeated (Repetition.applied_of_parse parsed) plain
  · obtain ⟨found, parsed, rfl⟩ := map_eq_ok_iff.1 success
    exact isPlain_of_repeated (Repetition.applied_of_parse parsed) plain
  · obtain ⟨found, parsed, rfl⟩ := map_eq_ok_iff.1 success
    exact isPlain_of_repeated (Repetition.applied_of_parse parsed) plain
  · obtain ⟨found, parsed, rfl⟩ := map_eq_ok_iff.1 success
    exact isPlain_of_repeated (Repetition.applied_of_parseCounted parsed) plain
  · obtain ⟨_, _, success⟩ := bind_eq_ok_iff.1 success
    cases success
    exact isPlain_of_push plain

end Reader

end SchemaMatch.Syntax
