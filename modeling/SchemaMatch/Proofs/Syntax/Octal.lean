import SchemaMatch.Proofs.Syntax.Gather
import SchemaMatch.Proofs.Syntax.Print.Cursor

/-!
# Octal escapes

Whether octal escapes are allowed matters only where a pattern holds one: a digit after a backslash
begins an octal escape or is refused. The characters of a pattern are those that its tree holds.
-/

namespace SchemaMatch.Syntax

mutual

def ClassSet.literals : ClassSet → List Literal
  | .literal value => [value]
  | .range _ lo hi => [lo, hi]
  | .bracketed _ _ body => body.literals
  | .union _ items => ClassSet.literalsAll items
  | .binary _ _ lhs rhs => lhs.literals ++ rhs.literals
  | _ => []

/-- The characters in several parts of a bracketed class. -/
def ClassSet.literalsAll : List ClassSet → List Literal
  | [] => []
  | item :: rest => item.literals ++ ClassSet.literalsAll rest

end

mutual

/-- The characters in a tree, those of classes included. -/
def Ast.literals : Ast → List Literal
  | .literal value => [value]
  | .bracketed _ _ body => body.literals
  | .repetition _ _ _ sub => sub.literals
  | .group _ _ sub => sub.literals
  | .alternation _ branches => Ast.literalsAll branches
  | .concat _ items => Ast.literalsAll items
  | _ => []

def Ast.literalsAll : List Ast → List Literal
  | [] => []
  | item :: rest => item.literals ++ Ast.literalsAll rest

end

theorem ClassSet.literalsAll_eq_flatMap (items : List ClassSet) :
    ClassSet.literalsAll items = items.flatMap ClassSet.literals := by
  induction items with
  | nil => rfl
  | cons item rest ih => rw [ClassSet.literalsAll, ih, List.flatMap_cons]

theorem Ast.literalsAll_eq_flatMap (items : List Ast) :
    Ast.literalsAll items = items.flatMap Ast.literals := by
  induction items with
  | nil => rfl
  | cons item rest ih => rw [Ast.literalsAll, ih, List.flatMap_cons]

/-- Characters are gathered from all parts of a tree, but not from the openings of groups. -/
theorem Ast.gathers_literals : GathersInside Ast.literals fun _ => [] where
  empty _ := rfl
  alternation _ branches := literalsAll_eq_flatMap branches
  concat _ items := literalsAll_eq_flatMap items
  repetition _ _ _ _ := rfl
  group _ _ _ := rfl

/-- A tree none of whose characters is written in octal. -/
def Ast.hasNoOctal (ast : Ast) : Bool := ast.literals.all fun literal => literal.form != .octal

/-- None of some characters is written in octal, if octal escapes are allowed at all. -/
def Unoctal (allowed : Bool) (literals : List Literal) : Prop :=
  allowed = true → ∀ literal ∈ literals, literal.form ≠ .octal

theorem Unoctal.of_subset {allowed : Bool} {some all : List Literal} (plain : Unoctal allowed all)
    (subset : some ⊆ all) : Unoctal allowed some :=
  fun allows literal member => plain allows literal (subset member)

variable {allowed : Bool} (other : Bool)

namespace Escape

theorem refused_of_isDigit {c : Char} (digit : c.isDigit = true) :
    hexWidth? c = none ∧ perl? c = none ∧ (c == 'p' || c == 'P') = false ∧
      ∀ start cursor found, oneLetter start c cursor ≠ .ok found := by
  obtain ⟨width, perl, letter, special, escapable, control, assertion, boundary⟩ :=
    forall_of_isDigit (P := fun c => hexWidth? c = none ∧ perl? c = none ∧
      (c == 'p' || c == 'P') = false ∧ isMeta c = false ∧ isEscapable c = false ∧
      control? c = none ∧ assertion? c = none ∧ (c == 'b') = false) (by decide) digit
  refine ⟨width, perl, letter, fun start cursor found success => ?_⟩
  simp only [oneLetter, special, escapable, control, assertion, boundary, refuse, if_false,
    Bool.false_eq_true] at success
  cases success

/-- What a backslash begins does not depend on whether octal escapes are allowed, if it is none. -/
theorem parse_of_unoctal {cursor last : Cursor} {found : Primitive}
    (success : parse allowed cursor = .ok (found, last))
    (plain : Unoctal allowed found.toAst.literals) : parse other cursor = .ok (found, last) := by
  simp only [parse] at success ⊢
  split at success
  · cases success
  · rename_i c seen
    have noDigit : c.isDigit = false := by
      rw [← Bool.not_eq_true]
      intro digit
      split at success
      · rename_i octal
        cases success
        exact plain octal.2.2 _ List.mem_cons_self rfl
      · split at success
        · cases success
        · obtain ⟨width, perl, letter, refused⟩ := refused_of_isDigit digit
          simp only [width, perl, letter, if_false, Bool.false_eq_true] at success
          exact refused _ _ _ success
    have noOctal (allowed : Bool) : ¬('0' ≤ c ∧ c ≤ '7' ∧ allowed = true) := by
      rintro ⟨above, below, _⟩
      have digit : c.isDigit = true := by
        rw [Char.isDigit_iff_toNat]
        have seven : c.toNat ≤ 55 := below
        have nine : c.toNat ≤ 57 := by omega
        exact ⟨above, nine⟩
      rw [digit] at noDigit
      cases noDigit
    have noReference (allowed : Bool) : ¬(c.isDigit = true ∧ (!allowed) = true) := by
      rw [noDigit]
      exact fun digit => Bool.noConfusion digit.1
    rw [if_neg (noOctal allowed), if_neg (noReference allowed)] at success
    rw [if_neg (noOctal other), if_neg (noReference other)]
    exact success

end Escape

/-- The same of a part of a pattern that no operator begins. -/
theorem Primitive.parse_of_unoctal {c : Char} {cursor last : Cursor} {found : Primitive}
    (success : Primitive.parse allowed c cursor = .ok (found, last))
    (plain : Unoctal allowed found.toAst.literals) :
    Primitive.parse other c cursor = .ok (found, last) := by
  unfold Primitive.parse at success ⊢
  split at success
  · exact Escape.parse_of_unoctal other success plain
  · exact success
  · exact success
  · exact success
  · exact success

namespace Bracket

def Items.literals (items : Items) : List Literal :=
  items.reversed.reverse.flatMap ClassSet.literals

/-- The characters of an open bracket, those of the first operand included. -/
def Level.literals (level : Level) : List Literal :=
  (level.pending.map fun (_, lhs) => lhs.literals).getD [] ++ level.items.literals

def State.literals (state : State) : List Literal :=
  state.outer.reverse.flatMap Level.literals ++ state.level.literals

@[simp] theorem Items.literals_push (items : Items) (item : ClassSet) :
    (items.push item).literals = items.literals ++ item.literals := by
  simp only [Items.literals, Items.push, List.reverse_cons, List.flatMap_append, List.flatMap_cons,
    List.flatMap_nil, List.append_nil]

theorem Items.literals_toSet (items : Items) : items.toSet.literals = items.literals := by
  match items with
  | ⟨_, []⟩ => rfl
  | ⟨_, [_]⟩ => simp [toSet, Items.literals]
  | ⟨_, _ :: _ :: _⟩ =>
    simp only [toSet, ClassSet.literals, ClassSet.literalsAll_eq_flatMap, Items.literals]

theorem Level.literals_operand (level : Level) : level.operand.literals = level.literals := by
  match level with
  | ⟨_, _, none, items⟩ => exact Items.literals_toSet items
  | ⟨_, _, some (operator, lhs), items⟩ =>
    simp only [operand, ClassSet.literals, Items.literals_toSet]
    rfl

@[simp] theorem State.literals_push (state : State) (item : ClassSet) :
    (state.push item).literals = state.literals ++ item.literals := by
  simp only [State.literals, State.push, Level.literals, Items.literals_push, List.append_assoc]

theorem State.literals_applyOperator (operator : SetOperator) (state : State) (cursor : Cursor) :
    (applyOperator operator state cursor).literals = state.literals := by
  simp [State.literals, applyOperator, Level.literals, Level.literals_operand, Items.literals,
    Items.none]

/-- The mate of a bracket keeps the characters between them. -/
theorem literals_closeLevel (state : State) (cursor : Cursor) :
    (∀ closed, closeLevel state cursor = .inl closed → closed.literals = state.literals) ∧
      ∀ result, closeLevel state cursor = .inr result → result.body.literals = state.literals := by
  obtain ⟨level, outer⟩ := state
  cases outer with
  | nil =>
    refine ⟨fun closed equal => ?_, fun result equal => ?_⟩
    · cases equal
    · cases equal
      exact Level.literals_operand level
  | cons around outer =>
    refine ⟨fun closed equal => ?_, fun result equal => ?_⟩
    · cases equal
      rw [State.literals_push]
      simp [State.literals, ClassSet.literals, Level.literals_operand]
    · cases equal

theorem item_of_unoctal {cursor last : Cursor} {found : Primitive}
    (success : item allowed cursor = .ok (found, last))
    (plain : Unoctal allowed found.toAst.literals) : item other cursor = .ok (found, last) := by
  unfold item at success ⊢
  split at success
  · exact Escape.parse_of_unoctal other success plain
  · exact success
  · cases success

theorem literals_of_toClassSet {part : Primitive} {set : ClassSet}
    (success : part.toClassSet = .ok set) : set.literals = part.toAst.literals := by
  cases part <;> cases success <;> rfl

theorem literals_of_toRangeEnd {part : Primitive} {value : Literal}
    (success : part.toRangeEnd = .ok value) : part.toAst.literals = [value] := by
  cases part <;> cases success
  rfl

/-- An item or a range joins the characters, and does not depend on whether octal escapes are
allowed. -/
theorem rangeOrItem_of_unoctal {state found : State} {cursor last : Cursor}
    (success : rangeOrItem allowed state cursor = .ok (found, last)) :
    state.literals <+: found.literals ∧
      (Unoctal allowed found.literals → rangeOrItem other state cursor = .ok (found, last)) := by
  simp only [rangeOrItem, State.unclosed, refuse, bind_eq_ok_iff, unless_eq_ok_iff,
    Prod.exists] at success
  obtain ⟨lo, mid, first, some, success⟩ := success
  split at success
  · rename_i single
    obtain ⟨set, member, equal⟩ := bind_eq_ok_iff.1 success
    cases equal
    rw [State.literals_push]
    refine ⟨List.prefix_append _ _, fun plain => ?_⟩
    have again := item_of_unoctal other first (plain.of_subset
      (literals_of_toClassSet member ▸ List.subset_append_right _ _))
    simp only [rangeOrItem, again, ok_bind, some, single, member, if_true, if_false,
      Bool.false_eq_true]
  · rename_i range
    simp only [bind_eq_ok_iff, unless_eq_ok_iff, Prod.exists] at success
    obtain ⟨further, hi, stop, second, low, isLow, high, isHigh, ordered, equal⟩ := success
    cases equal
    rw [State.literals_push]
    refine ⟨List.prefix_append _ _, fun plain => ?_⟩
    have ends : Unoctal allowed [low, high] := plain.of_subset (List.subset_append_right _ _)
    have front := item_of_unoctal other first (ends.of_subset (by
      rw [literals_of_toRangeEnd isLow]
      exact List.cons_subset_cons low (List.nil_subset _)))
    have back := item_of_unoctal other second (ends.of_subset (by
      rw [literals_of_toRangeEnd isHigh]
      exact List.subset_cons_self low [high]))
    simp only [rangeOrItem, front, back, ok_bind, some, range, further, isLow, isHigh, ordered,
      if_false, Bool.false_eq_true]

/-- What has been read of a class stays in it, and does not depend on whether octal escapes are
allowed. -/
theorem run_of_unoctal {bound : Nat} {state : State} {found : Result} {cursor last : Cursor}
    (success : run allowed bound state cursor = .ok (found, last)) :
    state.literals <+: found.body.literals ∧
      (Unoctal allowed found.body.literals → run other bound state cursor = .ok (found, last)) := by
  induction bound generalizing state cursor with
  | zero => cases success
  | succ bound ih =>
    have item {next : State × Cursor}
        (taken : rangeOrItem allowed state cursor.skip = .ok next)
        (success : run allowed bound next.1 next.2 = .ok (found, last)) :
        state.literals <+: found.body.literals ∧ (Unoctal allowed found.body.literals →
          rangeOrItem other state cursor.skip = .ok next ∧
            run other bound next.1 next.2 = .ok (found, last)) := by
      obtain ⟨joins, again⟩ := rangeOrItem_of_unoctal other taken
      obtain ⟨stays, rest⟩ := ih success
      exact ⟨joins.trans stays, fun plain => ⟨again (plain.of_subset stays.subset), rest plain⟩⟩
    simp only [run] at success ⊢
    split at success
    · cases success
    · split at success
      · obtain ⟨stays, rest⟩ := ih success
        rw [State.literals_push] at stays
        exact ⟨(List.prefix_append _ _).trans stays, rest⟩
      · obtain ⟨⟨level, mid⟩, opened, success⟩ := bind_eq_ok_iff.1 success
        obtain ⟨stays, rest⟩ := ih success
        have outside : state.literals <+: State.literals ⟨level, state.level :: state.outer⟩ := by
          refine ⟨level.literals, ?_⟩
          simp only [State.literals, List.reverse_cons, List.flatMap_append, List.flatMap_cons,
            List.flatMap_nil, List.append_nil]
        refine ⟨outside.trans stays, fun plain => ?_⟩
        rw [opened]
        exact rest plain
    · obtain ⟨goesOn, ends⟩ := literals_closeLevel state cursor.skip.advance
      split at success
      · rename_i closed inner
        obtain ⟨stays, rest⟩ := ih success
        rw [goesOn closed inner] at stays
        exact ⟨stays, rest⟩
      · rename_i result outer
        cases success
        rw [ends _ outer]
        exact ⟨List.prefix_refl _, fun _ => rfl⟩
    · split at success
      · split at success
        · rename_i doubled
          obtain ⟨stays, rest⟩ := ih success
          rw [State.literals_applyOperator] at stays
          rw [if_pos doubled]
          exact ⟨stays, rest⟩
        · rename_i single
          obtain ⟨next, taken, success⟩ := bind_eq_ok_iff.1 success
          obtain ⟨stays, again⟩ := item taken success
          refine ⟨stays, fun plain => ?_⟩
          rw [if_neg single, (again plain).1]
          exact (again plain).2
      · obtain ⟨next, taken, success⟩ := bind_eq_ok_iff.1 success
        obtain ⟨stays, again⟩ := item taken success
        refine ⟨stays, fun plain => ?_⟩
        rw [(again plain).1]
        exact (again plain).2

/-- A bracketed class does not depend on whether octal escapes are allowed. -/
theorem parse_of_unoctal {cursor last : Cursor} {found : Result}
    (success : parse allowed cursor = .ok (found, last))
    (plain : Unoctal allowed found.body.literals) : parse other cursor = .ok (found, last) := by
  obtain ⟨⟨level, inside⟩, opened, success⟩ := bind_eq_ok_iff.1 success
  simp only [parse, opened, ok_bind]
  exact (run_of_unoctal other success).2 plain

end Bracket

namespace Reader

variable {reader result : Reader}

theorem step_of_unoctal {c : Char} (success : reader.step allowed c = .ok result)
    (plain : Unoctal allowed (result.gather Ast.literals fun _ => [])) :
    reader.step other c = .ok result := by
  simp only [step] at success ⊢
  split at success
  · exact success
  · exact success
  · exact success
  · obtain ⟨⟨found, last⟩, closed, success⟩ := bind_eq_ok_iff.1 success
    cases success
    rw [gather_push] at plain
    rw [Bracket.parse_of_unoctal other closed (plain.of_subset (List.subset_append_right _ _))]
    rfl
  · exact success
  · exact success
  · exact success
  · exact success
  · obtain ⟨⟨found, last⟩, parsed, success⟩ := bind_eq_ok_iff.1 success
    cases success
    rw [gather_push] at plain
    rw [Primitive.parse_of_unoctal other parsed (plain.of_subset (List.subset_append_right _ _))]
    rfl

/-- A pattern without octal escapes does not depend on whether they are allowed. -/
theorem run_of_unoctal {bound : Nat} {ast : Ast} (success : reader.run allowed bound = .ok ast)
    (plain : Unoctal allowed ast.literals) : reader.run other bound = .ok ast := by
  induction bound generalizing reader with
  | zero => exact success
  | succ bound ih =>
    simp only [run] at success ⊢
    split at success
    · exact success
    · obtain ⟨result, stepped, success⟩ := bind_eq_ok_iff.1 success
      have stays := gather_run Ast.gathers_literals success
      rw [step_of_unoctal other stepped (plain.of_subset stays.subset)]
      exact ih success

end Reader

end SchemaMatch.Syntax
