import SchemaMatch.Proofs.Expr.Nodes
import SchemaMatch.Proofs.Expr.Reading

/-!
# The tree that a composed pattern reads as

A composed pattern reads as a syntax tree that mirrors the tree it was printed from. Places apart,
`Expr.items` says what each part of the tree becomes. The main statement is `Expr.read_rendered`: if
its nodes are sound, the pattern reads so or is too deep.
-/

namespace SchemaMatch

namespace Expr

open Syntax

variable {options : Options}

mutual

/-- The items that the pattern of a tree adds, without places. -/
def items (options : Options) : Expr → List Ast
  | fragment text =>
    if text.isEmpty then [] else [.group .nowhere .plain (bareTree options text)]
  | concat parts => itemsAll options parts
  | capture slot _ expr =>
    if slot == 0 then items options expr
    else [.group .nowhere (.captureIndex slot) (Ast.ofItems (items options expr))]
  | optional expr =>
    [.repetition .nowhere .zeroOrOne (!options.swapGreed)
      (.group .nowhere .plain (Ast.ofItems (items options expr)))]
  | alternation parts => [.group .nowhere .plain (Ast.ofBranches (branchTrees options parts))]

def itemsAll (options : Options) : List Expr → List Ast
  | [] => []
  | expr :: rest => items options expr ++ itemsAll options rest

def branchTrees (options : Options) : List Expr → List Ast
  | [] => []
  | expr :: rest => Ast.ofItems (items options expr) :: branchTrees options rest

end

mutual

/-- What a tree prints is nothing, or begins with a parenthesis. -/
theorem head_print (swapGreed : Bool) : (expr : Expr) →
    expr.print swapGreed = [] ∨ (expr.print swapGreed).head? = some '('
  | fragment text => by
    simp only [print]
    split
    · exact .inl rfl
    · exact .inr rfl
  | concat parts => head_printAll swapGreed parts
  | capture slot _ expr => by
    simp only [print]
    split
    · exact head_print swapGreed expr
    · exact .inr rfl
  | optional _ => .inr rfl
  | alternation _ => .inr rfl

theorem head_printAll (swapGreed : Bool) : (exprs : List Expr) →
    printAll swapGreed exprs = [] ∨ (printAll swapGreed exprs).head? = some '('
  | [] => .inl rfl
  | expr :: rest => by
    rw [printAll]
    rcases head_print swapGreed expr with empty | head
    · rw [empty]
      exact head_printAll swapGreed rest
    · right
      rw [List.head?_append, head]
      rfl

end

theorem head_printAll_ne_mark (swapGreed : Bool) (exprs : List Expr) :
    (printAll swapGreed exprs).head? ≠ some '?' := by
  rcases head_printAll swapGreed exprs with empty | head
  · rw [empty]
    exact nofun
  · rw [head]
    decide

mutual

theorem adds_print {first next : Nat} : (expr : Expr) → Numbered first expr next →
    expr.OnNodes (IsSound options) →
    Adds options.octal options.ignoreWhitespace (expr.print options.swapGreed) first
      (expr.items options) next
  | fragment text, numbered, sound => by
    cases numbered
    simp only [print, items]
    split
    · exact Adds.nil _ _ _
    · exact .fragment (onNodes_fragment.1 sound).1 first
  | concat parts, numbered, sound => adds_printAll parts numbered (onNodes_concat.1 sound).2
  | capture slot name expr, numbered, sound => by
    obtain ⟨rfl, inside, numbered⟩ := numbered
    have adds := adds_print expr numbered (onNodes_capture.1 sound).2
    simp only [print, items, beq_iff_eq, inside, if_false]
    exact adds.capture (head_print options.swapGreed expr)
  | optional expr, numbered, sound =>
    (adds_print expr numbered (onNodes_optional.1 sound).2).optional
  | alternation parts, numbered, sound => by
    by_cases none : parts = []
    · cases none
      cases numbered
      exact (Adds.nil _ _ _).plain
    · exact (adds_printBranches parts none numbered (onNodes_alternation.1 sound).2).choice

theorem adds_printAll {first next : Nat} : (exprs : List Expr) →
    NumberedAll first exprs next → OnAllNodes (IsSound options) exprs →
    Adds options.octal options.ignoreWhitespace (printAll options.swapGreed exprs) first
      (itemsAll options exprs) next
  | [], numbered, _ => by
    cases numbered
    exact Adds.nil _ _ _
  | expr :: rest, numbered, sound => by
    obtain ⟨middle, numbered, others⟩ := numbered
    obtain ⟨here, there⟩ := onAllNodes_cons.1 sound
    exact (adds_print expr numbered here).append (adds_printAll rest others there)
      (head_printAll_ne_mark options.swapGreed rest)

theorem adds_printBranches {first next : Nat} : (branches : List Expr) → branches ≠ [] →
    NumberedAll first branches next → OnAllNodes (IsSound options) branches →
    AddsBranches options.octal options.ignoreWhitespace
      (printBranches options.swapGreed branches) first (branchTrees options branches) next
  | [], given, _, _ => absurd rfl given
  | [branch], _, numbered, sound => by
    obtain ⟨_, numbered, rfl⟩ := numbered
    exact .last (adds_print branch numbered (onAllNodes_cons.1 sound).1)
  | branch :: second :: others, _, numbered, sound => by
    obtain ⟨middle, numbered, after⟩ := numbered
    obtain ⟨here, there⟩ := onAllNodes_cons.1 sound
    exact .before (adds_print branch numbered here)
      (adds_printBranches (second :: others) (List.cons_ne_nil _ _) after there)

end

/-- What numbered trees print, read alone, is the tree of their items or too deep. -/
theorem read_rendered {exprs : List Expr} {next : Nat} (name : String)
    (numbered : NumberedAll 1 exprs next) (sound : OnAllNodes (IsSound options) exprs) :
    (∃ ast, Ast.parse options ((capture 0 name (concat exprs)).renderWith options.swapGreed) =
      .ok ast ∧ ast.bare = Ast.ofItems (itemsAll options exprs)) ∨
    ∃ span, Ast.parse options ((capture 0 name (concat exprs)).renderWith options.swapGreed) =
      .error ⟨.nestLimitExceeded options.nestLimit, span, none⟩ := by
  let text := String.ofList (printAll options.swapGreed exprs)
  let reader := Reader.ofString options.ignoreWhitespace text
  have rest : reader.cursor.rest = printAll options.swapGreed exprs ++ [] := by
    simp [reader, text, Reader.ofString, Cursor.ofString]
  obtain ⟨result, leads, added⟩ :=
    adds_printAll exprs numbered sound reader [] rest rfl rfl (by decide)
  obtain ⟨fewer, _, same⟩ := leads _ (Nat.le_refl _)
  have done : result.cursor.skip = result.cursor := Cursor.skip_of_ended added.rest
  have finished : result.run options.octal fewer =
      .ok (result.level.toAst result.cursor.position) := by
    have frames : result.frames = [] := added.frames
    cases fewer with
    | zero => simp only [Reader.run, Reader.finish, frames]
    | succ fewer =>
      simp only [Reader.run, done, Cursor.peek?, added.rest, List.head?_nil, Reader.finish, frames]
  have bare : result.level.bare =
      ⟨Position.first, (itemsAll options exprs).reverse, earlierBranches []⟩ := by
    rw [added.level]
    exact congrArg (Level.mk _ · _) (List.append_nil _)
  have tree := Level.toAst_bare_eq bare result.cursor.position
  rw [List.nil_append] at tree
  have parsed : Ast.parse options ((capture 0 name (concat exprs)).renderWith options.swapGreed) =
      ((result.level.toAst result.cursor.position).checkNesting options.nestLimit 0 >>=
        fun _ => .ok (result.level.toAst result.cursor.position)) := by
    change (reader.run options.octal reader.cursor.rest.length >>= fun ast => _) = _
    rw [same, finished]
    rfl
  by_cases passes :
      (result.level.toAst result.cursor.position).checkNesting options.nestLimit 0 = .ok ()
  · left
    rw [passes] at parsed
    exact ⟨_, parsed, tree⟩
  · right
    obtain ⟨span, deep⟩ := Ast.isTooDeep_of_ne_ok passes
    rw [deep] at parsed
    exact ⟨span, parsed⟩

mutual

/-- The captures of a tree as groups that nest; slot zero is the whole match and no group. -/
def groups : Expr → List Group
  | fragment _ => []
  | concat parts => groupsAll parts
  | capture slot _ expr => if slot == 0 then groups expr else [.node slot (groups expr)]
  | optional expr => groups expr
  | alternation parts => groupsAll parts

/-- The captures of several trees as groups that nest. -/
def groupsAll : List Expr → List Group
  | [] => []
  | expr :: rest => groups expr ++ groupsAll rest

end

theorem groups_ofItems (trees : List Ast) : (Ast.ofItems trees).groups = Ast.groupsAll trees := by
  match trees with
  | [] => rfl
  | [tree] => simp [Ast.ofItems, Ast.groupsAll]
  | _ :: _ :: _ => rfl

theorem groups_ofBranches (trees : List Ast) :
    (Ast.ofBranches trees).groups = Ast.groupsAll trees := by
  match trees with
  | [] => rfl
  | [tree] => simp [Ast.ofBranches, Ast.groupsAll]
  | _ :: _ :: _ => rfl

theorem groupsAll_append (some more : List Ast) :
    Ast.groupsAll (some ++ more) = Ast.groupsAll some ++ Ast.groupsAll more := by
  simp only [Ast.groupsAll_eq_flatMap, List.flatMap_append]

theorem groups_bareTree {text : String} (contained : Fragment.IsSelfContained options text) :
    (bareTree options text).groups = [] := by
  obtain ⟨ast, success, plain, _⟩ := contained
  rw [bareTree_of_parse success, Ast.groups_bare, plain]

mutual

theorem groups_items : (expr : Expr) → expr.OnNodes (IsSound options) →
    Ast.groupsAll (expr.items options) = expr.groups
  | fragment text, sound => by
    simp only [items, groups]
    split
    · rfl
    · have plain := groups_bareTree (onNodes_fragment.1 sound).1
      simp only [Ast.groupsAll, Ast.groups, plain]
      rfl
  | concat parts, sound => groups_itemsAll parts (onNodes_concat.1 sound).2
  | capture slot _ expr, sound => by
    have inside := groups_items expr (onNodes_capture.1 sound).2
    simp only [items, groups]
    split
    · exact inside
    · simp only [Ast.groupsAll, Ast.groups, groups_ofItems, inside, List.append_nil]
      rfl
  | optional expr, sound => by
    have inside := groups_items expr (onNodes_optional.1 sound).2
    simp only [items, groups, Ast.groupsAll, Ast.groups, groups_ofItems, inside, List.append_nil]
    rfl
  | alternation parts, sound => by
    have inside := groups_branchTrees parts (onNodes_alternation.1 sound).2
    simp only [items, groups, Ast.groupsAll, Ast.groups, groups_ofBranches, inside,
      List.append_nil]
    rfl

theorem groups_itemsAll : (exprs : List Expr) → OnAllNodes (IsSound options) exprs →
    Ast.groupsAll (itemsAll options exprs) = groupsAll exprs
  | [], _ => rfl
  | expr :: rest, sound => by
    obtain ⟨here, there⟩ := onAllNodes_cons.1 sound
    rw [itemsAll, groupsAll_append, groups_items expr here, groups_itemsAll rest there, groupsAll]

theorem groups_branchTrees : (exprs : List Expr) → OnAllNodes (IsSound options) exprs →
    Ast.groupsAll (branchTrees options exprs) = groupsAll exprs
  | [], _ => rfl
  | expr :: rest, sound => by
    obtain ⟨here, there⟩ := onAllNodes_cons.1 sound
    rw [branchTrees, Ast.groupsAll, groups_ofItems, groups_items expr here,
      groups_branchTrees rest there, groupsAll]

end

mutual

theorem indices_groups {first next : Nat} : (expr : Expr) → Numbered first expr next →
    first ≤ next ∧ Group.indicesAll expr.groups = List.range' first (next - first)
  | fragment _, numbered => by
    cases numbered
    simp [groups, Group.indicesAll]
  | concat parts, numbered => indices_groupsAll parts numbered
  | capture slot _ expr, numbered => by
    obtain ⟨rfl, inside, numbered⟩ := numbered
    obtain ⟨fewer, indices⟩ := indices_groups expr numbered
    refine ⟨by omega, ?_⟩
    have count : next - slot = (next - (slot + 1)) + 1 := by omega
    simp only [groups, beq_iff_eq, inside, if_false, Group.indicesAll, Group.indices, indices,
      List.append_nil]
    rw [count, List.range'_succ]
  | optional expr, numbered => indices_groups expr numbered
  | alternation parts, numbered => indices_groupsAll parts numbered

theorem indices_groupsAll {first next : Nat} : (exprs : List Expr) →
    NumberedAll first exprs next →
    first ≤ next ∧ Group.indicesAll (groupsAll exprs) = List.range' first (next - first)
  | [], numbered => by
    cases numbered
    simp [groupsAll, Group.indicesAll]
  | expr :: rest, numbered => by
    obtain ⟨middle, numbered, others⟩ := numbered
    obtain ⟨fewer, indices⟩ := indices_groups expr numbered
    obtain ⟨more, after⟩ := indices_groupsAll rest others
    refine ⟨by omega, ?_⟩
    have ends : first + (middle - first) = middle := by omega
    have count : next - first = (middle - first) + (next - middle) := by omega
    rw [groupsAll, Group.indicesAll_append, indices, after, count, ← List.range'_append_1, ends]

end

end Expr

end SchemaMatch
