import SchemaMatch.Syntax.Parser

/-!
# Trees without places

The same text reads differently at different places of a pattern only in the spans that the tree
records. `bare` drops the spans, of a tree and of everything that a reader keeps on the way to
one; putting parts together commutes with it.
-/

namespace SchemaMatch.Syntax

def Span.nowhere : Span := Span.point Position.first

/-- A character without its place. -/
def Literal.bare (literal : Literal) : Literal := { literal with span := .nowhere }

/-- A class of a letter without its place. -/
def PerlClass.bare (perl : PerlClass) : PerlClass := { perl with span := .nowhere }

/-- A class of a property without its place. -/
def PropertyClass.bare (property : PropertyClass) : PropertyClass :=
  { property with span := .nowhere }

/-- A named class without its place. -/
def AsciiClass.bare (ascii : AsciiClass) : AsciiClass := { ascii with span := .nowhere }

/-- A flag without its place. -/
def FlagItem.bare (item : FlagItem) : FlagItem := { item with span := .nowhere }

/-- Flags without their places. -/
def FlagList.bare (list : FlagList) : FlagList := ⟨.nowhere, list.items.map FlagItem.bare⟩

/-- The name of a group without its place. -/
def CaptureName.bare (name : CaptureName) : CaptureName := { name with span := .nowhere }

/-- The opening of a group without places. -/
def GroupKind.bare : GroupKind → GroupKind
  | captureIndex index => captureIndex index
  | captureName startsWithP name => captureName startsWithP name.bare
  | nonCapturing flags => nonCapturing flags.bare

theorem GroupKind.exists_of_bare {kind : GroupKind} {list : FlagList}
    (same : kind.bare = nonCapturing list) : ∃ twin, kind = nonCapturing twin := by
  cases kind with
  | captureIndex index => cases same
  | captureName startsWithP name => cases same
  | nonCapturing twin => exact ⟨twin, rfl⟩

mutual

/-- A part of a bracketed class without places. -/
def ClassSet.bare : ClassSet → ClassSet
  | .empty _ => .empty .nowhere
  | .literal value => .literal value.bare
  | .range _ lo hi => .range .nowhere lo.bare hi.bare
  | .ascii value => .ascii value.bare
  | .property value => .property value.bare
  | .perl value => .perl value.bare
  | .bracketed _ negated body => .bracketed .nowhere negated body.bare
  | .union _ items => .union .nowhere (ClassSet.bareAll items)
  | .binary _ operator lhs rhs => .binary .nowhere operator lhs.bare rhs.bare

def ClassSet.bareAll : List ClassSet → List ClassSet
  | [] => []
  | item :: rest => item.bare :: ClassSet.bareAll rest

end

mutual

/-- A tree without places. -/
def Ast.bare : Ast → Ast
  | .empty _ => .empty .nowhere
  | .flags _ list => .flags .nowhere list.bare
  | .literal value => .literal value.bare
  | .dot _ => .dot .nowhere
  | .assertion _ kind => .assertion .nowhere kind
  | .property value => .property value.bare
  | .perl value => .perl value.bare
  | .bracketed _ negated body => .bracketed .nowhere negated body.bare
  | .repetition _ kind greedy sub => .repetition .nowhere kind greedy sub.bare
  | .group _ kind sub => .group .nowhere kind.bare sub.bare
  | .alternation _ branches => .alternation .nowhere (Ast.bareAll branches)
  | .concat _ items => .concat .nowhere (Ast.bareAll items)

def Ast.bareAll : List Ast → List Ast
  | [] => []
  | item :: rest => item.bare :: Ast.bareAll rest

end

theorem ClassSet.bareAll_eq_map (items : List ClassSet) :
    ClassSet.bareAll items = items.map ClassSet.bare := by
  induction items with
  | nil => rfl
  | cons item rest ih => rw [ClassSet.bareAll, ih, List.map_cons]

theorem Ast.bareAll_eq_map (items : List Ast) : Ast.bareAll items = items.map Ast.bare := by
  induction items with
  | nil => rfl
  | cons item rest ih => rw [Ast.bareAll, ih, List.map_cons]

@[simp] theorem ClassSet.span_bare (set : ClassSet) : set.bare.span = .nowhere := by
  cases set <;> rfl

@[simp] theorem FlagList.state?_bare (list : FlagList) (flag : Flag) :
    list.bare.state? flag = list.state? flag := by
  have walk (items : List FlagItem) (on : Bool) :
      FlagList.state?.go flag on (items.map FlagItem.bare) = FlagList.state?.go flag on items := by
    induction items generalizing on with
    | nil => rfl
    | cons item rest ih =>
      cases item with
      | mk span kind =>
        cases kind with
        | negation => exact ih false
        | flag value =>
          simp only [List.map_cons, FlagItem.bare, FlagList.state?.go]
          split
          · rfl
          · exact ih on
  exact walk list.items true

/-- Whether blanks are skipped in a group does not depend on places. -/
@[simp] theorem GroupKind.verbose_bare (kind : GroupKind) (outside : Bool) :
    kind.bare.verbose outside = kind.verbose outside := by
  cases kind with
  | captureIndex index => rfl
  | captureName startsWithP name => rfl
  | nonCapturing flags => simp only [GroupKind.bare, GroupKind.verbose, FlagList.state?_bare]

/-- Whether an item can be repeated does not depend on its place. -/
@[simp] theorem Repetition.isRepeatable_bare (ast : Ast) :
    Repetition.isRepeatable ast.bare = Repetition.isRepeatable ast := by
  cases ast <;> rfl

/-- What a group opens with, without places. -/
def Opening.bare : Opening → Opening
  | flags _ list => flags .nowhere list.bare
  | group _ kind => group .nowhere kind.bare

namespace Primitive

/-- A smallest part without its place. -/
def bare : Primitive → Primitive
  | literal value => literal value.bare
  | dot _ => dot .nowhere
  | assertion _ kind => assertion .nowhere kind
  | property value => property value.bare
  | perl value => perl value.bare

theorem toAst_bare (part : Primitive) : part.bare.toAst = part.toAst.bare := by
  cases part <;> rfl

theorem toClassSet_of_bare {part other : Primitive} {set : ClassSet}
    (same : other.bare = part.bare) (success : part.toClassSet = .ok set) :
    ∃ found, other.toClassSet = .ok found ∧ found.bare = set.bare := by
  cases part with
  | dot => cases success
  | assertion => cases success
  | literal value =>
    cases success
    cases other with
    | literal found => exact ⟨_, rfl, congrArg ClassSet.literal (literal.inj same)⟩
    | _ => cases same
  | property value =>
    cases success
    cases other with
    | property found => exact ⟨_, rfl, congrArg ClassSet.property (property.inj same)⟩
    | _ => cases same
  | perl value =>
    cases success
    cases other with
    | perl found => exact ⟨_, rfl, congrArg ClassSet.perl (perl.inj same)⟩
    | _ => cases same

theorem toRangeEnd_of_bare {part other : Primitive} {value : Literal}
    (same : other.bare = part.bare) (success : part.toRangeEnd = .ok value) :
    ∃ found, other.toRangeEnd = .ok found ∧ found.bare = value.bare := by
  cases part with
  | literal value =>
    cases success
    cases other with
    | literal found => exact ⟨found, rfl, literal.inj same⟩
    | _ => cases same
  | _ => cases success

end Primitive

namespace Bracket

/-- Items without places. -/
def Items.bare (items : Items) : Items := ⟨.nowhere, items.reversed.map ClassSet.bare⟩

/-- An open bracket without places. -/
def Level.bare (level : Level) : Level :=
  ⟨.nowhere, level.negated, level.pending.map fun (operator, lhs) => (operator, lhs.bare),
    level.items.bare⟩

/-- Open brackets without places. -/
def State.bare (state : State) : State := ⟨state.level.bare, state.outer.map Level.bare⟩

/-- A class that has been read, without places. -/
def Result.bare (result : Result) : Result := ⟨.nowhere, result.negated, result.body.bare⟩

@[simp] theorem Items.bare_push (items : Items) (item : ClassSet) :
    (items.push item).bare = ⟨.nowhere, item.bare :: items.bare.reversed⟩ := rfl

theorem Items.toSet_bare (items : Items) : items.bare.toSet = items.toSet.bare := by
  match items with
  | ⟨_, []⟩ => rfl
  | ⟨_, [_]⟩ => rfl
  | ⟨_, _ :: _ :: _⟩ =>
    simp [Items.bare, Items.toSet, ClassSet.bare, ClassSet.bareAll_eq_map]

theorem Level.operand_bare (level : Level) : level.bare.operand = level.operand.bare := by
  match level with
  | ⟨_, _, none, items⟩ => exact Items.toSet_bare items
  | ⟨_, _, some (operator, lhs), items⟩ =>
    simp only [Level.bare, Level.operand, Option.map_some, Items.toSet_bare, ClassSet.bare,
      ClassSet.span_bare]

/-- Equal levels but for places have equal operands but for places. -/
theorem Level.operand_of_bare {level other : Level} (same : other.bare = level.bare) :
    other.operand.bare = level.operand.bare := by
  rw [← Level.operand_bare, same, Level.operand_bare]

@[simp] theorem State.bare_push (state : State) (item : ClassSet) :
    (state.push item).bare = ⟨⟨.nowhere, state.bare.level.negated, state.bare.level.pending,
      ⟨.nowhere, item.bare :: state.bare.level.items.reversed⟩⟩, state.bare.outer⟩ := rfl

theorem State.push_of_bare {state other : State} {item found : ClassSet}
    (same : other.bare = state.bare) (alike : found.bare = item.bare) :
    (other.push found).bare = (state.push item).bare := by
  rw [State.bare_push, State.bare_push, same, alike]

end Bracket

namespace Level

/-- A level without places. -/
def bare (level : Level) : Level :=
  ⟨Position.first, level.reversed.map Ast.bare,
    level.earlier.map fun (_, branches) => (Position.first, branches.map Ast.bare)⟩

theorem branch_bare (level : Level) (stop : Position) :
    level.bare.branch Position.first = (level.branch stop).bare := by
  match level with
  | ⟨_, [], _⟩ => rfl
  | ⟨_, [_], _⟩ => rfl
  | ⟨_, _ :: _ :: _, _⟩ => simp [bare, branch, Ast.bare, Ast.bareAll_eq_map]; rfl

theorem toAst_bare (level : Level) (stop : Position) :
    level.bare.toAst Position.first = (level.toAst stop).bare := by
  have last := branch_bare level stop
  match level, last with
  | ⟨_, _, none⟩, last => exact last
  | ⟨_, _, some (_, branches)⟩, last =>
    simp only [bare, Option.map_some, toAst, Ast.bare, Ast.bareAll_eq_map, List.map_reverse,
      List.map_cons] at last ⊢
    rw [last]
    rfl

/-- Equal levels but for places make equal trees but for places. -/
theorem toAst_of_bare {level other : Level} (same : other.bare = level.bare)
    (stop last : Position) : (other.toAst last).bare = (level.toAst stop).bare := by
  rw [← toAst_bare, same, toAst_bare level stop]

@[simp] theorem bare_push (level : Level) (item : Ast) :
    (level.push item).bare =
      ⟨Position.first, item.bare :: level.bare.reversed, level.bare.earlier⟩ := rfl

theorem push_of_bare {level other : Level} {item found : Ast} (same : other.bare = level.bare)
    (alike : found.bare = item.bare) : (other.push found).bare = (level.push item).bare := by
  rw [bare_push, bare_push, same, alike]

theorem nextBranch_of_bare {level other : Level} (same : other.bare = level.bare)
    (bar far : Cursor) : (other.nextBranch far).bare = (level.nextBranch bar).bare := by
  have closed : (other.branch far.position).bare = (level.branch bar.position).bare := by
    rw [← branch_bare, same, branch_bare level bar.position]
  have before := congrArg Level.earlier same
  match level, other with
  | ⟨_, _, none⟩, ⟨_, _, none⟩ => simp [nextBranch, bare, closed]
  | ⟨_, _, none⟩, ⟨_, _, some _⟩ => simp [bare] at before
  | ⟨_, _, some _⟩, ⟨_, _, none⟩ => simp [bare] at before
  | ⟨_, _, some (_, branches)⟩, ⟨_, _, some (_, others)⟩ =>
    simp only [bare, Option.map_some, Option.some.injEq, Prod.mk.injEq, true_and] at before
    simp [nextBranch, bare, closed, before]

end Level

/-- An open group without places. -/
def Frame.bare (frame : Frame) : Frame :=
  ⟨frame.outer.bare, .nowhere, frame.kind.bare, frame.verbose⟩

end SchemaMatch.Syntax
