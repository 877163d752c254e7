import SchemaMatch.Pattern.Basic
import SchemaMatch.Proofs.Compilation.Composition
import SchemaMatch.Proofs.Expr.Meaning
import SchemaMatch.Regex.Size

/-!
# Composed patterns build

The groups of a composed pattern are the captures of its tree, and nothing but a limit keeps it from
being built, as long as the fragments are self-contained. The main statement is
`Pattern.build_of_compile`. A normal form need not be self-contained, since it has lost the blanks
and comments that the fragment had.
-/

namespace SchemaMatch

open Syntax (Ast Group)

/-- A composed pattern goes beyond a limit: its tree is too deep, or its program too big. -/
inductive Regex.Exceeds [SizeMeasure] (options : Options) (text : String) : BuildError → Prop
  | depth {span : Syntax.Span}
      (deep : Ast.parse options text = .error ⟨.nestLimitExceeded options.nestLimit, span, none⟩) :
      Exceeds options text (.invalid text ⟨.nestLimitExceeded options.nestLimit, span, none⟩)
  | size {term : Regex.Term} (means : Term.parse options text = .ok term)
      (big : options.sizeLimit < SizeMeasure.programSize term) :
      Exceeds options text (.tooBig options.sizeLimit)

namespace Pattern

variable {scope : Scope} {root : SchemaId} {stencil : Stencil} {expr : Expr}

/-- What a compiled tree is rendered as reads with the captures as groups and means a term with as
many groups, or is too deep. -/
theorem parse_of_compile (success : scope.compile root = .ok (stencil, expr))
    (contained : ∀ text, .fragment text ∈ expr.nodes →
      Fragment.IsSelfContained scope.options text) :
    (∃ ast term, Ast.parse scope.options (expr.renderWith scope.options.swapGreed) = .ok ast ∧
      ast.groups = expr.groups ∧
      Regex.Term.parse scope.options (expr.renderWith scope.options.swapGreed) = .ok term ∧
      term.lastGroup + 1 = expr.captureCount) ∨
    ∃ span, Ast.parse scope.options (expr.renderWith scope.options.swapGreed) =
      .error ⟨.nestLimitExceeded scope.options.nestLimit, span, none⟩ := by
  obtain ⟨name, exprs, root, numbered, made⟩ := Scope.composed_of_compile success
  have sound := Compilation.isSound_of_isMade made contained
  obtain ⟨fewer, indices⟩ := Expr.indices_groupsAll exprs numbered
  rw [root] at sound numbered indices fewer ⊢
  have inside := (Expr.onNodes_concat.1 (Expr.onNodes_capture.1 sound).2).2
  rcases Expr.parse_rendered name inside numbered with ⟨ast, parsed, groups, means⟩ | deep
  · refine .inl ⟨ast, _, parsed, groups, means, ?_⟩
    have last := Regex.Term.lastGroup_of_indices
      ((Regex.Term.indices_joined _).trans
        ((Expr.indices_termsAll exprs inside numbered).trans indices))
    omega
  · exact .inr deep

/-- The captures of a compiled tree after the whole match have the indices from one on. -/
theorem indices_of_compile (success : scope.compile root = .ok (stencil, expr)) :
    Group.indicesAll expr.groups = List.range' 1 (expr.captureCount - 1) := by
  obtain ⟨name, exprs, root, numbered, _⟩ := Scope.composed_of_compile success
  obtain ⟨_, indices⟩ := Expr.indices_groupsAll exprs numbered
  rw [← indices, root]
  rfl

section Measured

variable [Regex.SizeMeasure]

theorem slotCount_of_build {options : Options} {pattern : Pattern}
    (built : build options stencil expr = .ok pattern) :
    pattern.slotCount = expr.captureCount := by
  simp only [build] at built
  split at built
  · cases built
  · split at built
    · rename_i equal
      cases built
      exact equal
    · cases built

theorem exceeds_of_build {options : Options} {term : Regex.Term} {error : CompileError}
    (means : Regex.Term.parse options (expr.renderWith options.swapGreed) = .ok term)
    (count : term.lastGroup + 1 = expr.captureCount)
    (fails : build options stencil expr = .error error) :
    ∃ cause, Regex.Exceeds options (expr.renderWith options.swapGreed) cause ∧
      error = .engine stencil.name cause.message := by
  by_cases big : options.sizeLimit < Regex.SizeMeasure.programSize term
  · have refused : Regex.compile options (expr.renderWith options.swapGreed) =
        .error (.tooBig options.sizeLimit) := by
      simp only [Regex.compile, means, big, if_true]
    simp only [build, refused] at fails
    exact ⟨_, .size means big, (Except.error.inj fails).symm⟩
  · have compiled : Regex.compile options (expr.renderWith options.swapGreed) =
        .ok ⟨expr.renderWith options.swapGreed, term⟩ := by
      simp only [Regex.compile, means, big, if_false]
    have equal : Regex.groupCount ⟨expr.renderWith options.swapGreed, term⟩ =
      expr.captureCount := count
    simp only [build, compiled, equal, if_true] at fails
    cases fails

/-- If the fragments of a compiled tree are self-contained, the capturing groups of its pattern are
the captures of the tree after the whole match: they nest as the captures do, and the group that
opens in a place has the slot of the capture there as its index. Building fails for a limit only,
and what is built has a group for each slot. -/
theorem build_of_compile (success : scope.compile root = .ok (stencil, expr))
    (contained : ∀ text, .fragment text ∈ expr.nodes →
      Fragment.IsSelfContained scope.options text) :
    (∀ ast, Ast.parse scope.options (expr.renderWith scope.options.swapGreed) = .ok ast →
      ast.groups = expr.groups ∧
        Group.indicesAll ast.groups = List.range' 1 (expr.captureCount - 1)) ∧
    (∀ error, build scope.options stencil expr = .error error →
      ∃ cause, Regex.Exceeds scope.options (expr.renderWith scope.options.swapGreed) cause ∧
        error = .engine stencil.name cause.message) ∧
    ∀ pattern, build scope.options stencil expr = .ok pattern →
      pattern.slotCount = expr.captureCount := by
  have numbers := indices_of_compile success
  refine ⟨fun ast read => ?_, fun error fails => ?_, fun pattern => slotCount_of_build⟩
  · rcases parse_of_compile success contained with ⟨found, _, parsed, groups, _⟩ | ⟨span, deep⟩
    · rw [parsed] at read
      cases read
      exact ⟨groups, by rw [groups, numbers]⟩
    · rw [deep] at read
      cases read
  · rcases parse_of_compile success contained with ⟨_, term, _, _, means, count⟩ | ⟨span, deep⟩
    · exact exceeds_of_build means count fails
    · simp only [build, Regex.compile, Regex.Term.parse, deep, error_bind] at fails
      exact ⟨_, .depth deep, (Except.error.inj fails).symm⟩

end Measured

theorem isSelfContained_samplePair (text : String)
    (member : .fragment text ∈ samplePairTree.nodes) :
    Fragment.IsSelfContained samplePair.options text := by
  have listed : text ∈ ["a", "-", "b"] := by
    simpa [samplePairTree, Expr.nodes, Expr.nodesAll, Expr.empty] using member
  rcases List.mem_cons.1 listed with rfl | listed
  · exact ⟨_, rfl, rfl, fun other success => by cases success⟩
  · rcases List.mem_cons.1 listed with rfl | listed
    · exact ⟨_, rfl, rfl, fun other success => by cases success⟩
    · cases List.mem_singleton.1 listed
      exact ⟨_, rfl, rfl, fun other success => by cases success⟩

/-- The pattern of `samplePair` has a group for each slot after the first. -/
theorem build_of_compile_samplePair :
    samplePair.compile 0 = .ok (samplePairStencil, samplePairTree) ∧
      (∃ ast, Ast.parse samplePair.options (samplePairTree.renderWith false) = .ok ast ∧
        Group.indicesAll ast.groups = [1, 2, 3, 4, 5]) ∧
      ∃ pattern, build samplePair.options samplePairStencil samplePairTree = .ok pattern ∧
        pattern.slotCount = 6 := by
  have success : samplePair.compile 0 = .ok (samplePairStencil, samplePairTree) := rfl
  obtain ⟨groups, fails, built⟩ := build_of_compile success isSelfContained_samplePair
  have reads : (fun _ => ()) <$> Ast.parse samplePair.options (samplePairTree.renderWith false) =
      .ok () := rfl
  have builds : (fun _ => ()) <$> build samplePair.options samplePairStencil samplePairTree =
      .ok () := rfl
  obtain ⟨ast, parsed, _⟩ := map_eq_ok_iff.1 reads
  obtain ⟨pattern, ready, _⟩ := map_eq_ok_iff.1 builds
  exact ⟨success, ⟨ast, parsed, (groups ast parsed).2⟩, pattern, ready, built pattern ready⟩

/-- A record with one fragment, a class that spans a comment. -/
def leakyRecord : Scope where
  family := {
    schemas := [⟨"S", "S", [⟨"f", .scalar "[A-#c\n](x)]" (.storable .text), 0⟩]⟩]
    capabilities := [] }
  registry := .empty
  options := { ignoreWhitespace := true }

/-- The stencil of `leakyRecord`. -/
def leakyStencil : Stencil := .mk 0 "S" "S" 0 [.scalar "f" 1 0 .text]

/-- The tree of `leakyRecord`. -/
def leakyTree : Expr :=
  .capture 0 "S" (.concat [.capture 1 "f" (.fragment "[A-](x)]")])

/-- Without its comment the class of `leakyRecord` ends early, and what was in it is a group: the
pattern has one more group than there are slots, and is refused for that. -/
theorem build_leakyRecord :
    leakyRecord.compile 0 = .ok (leakyStencil, leakyTree) ∧ leakyTree.groups = [.node 1 []] ∧
      Ast.groups <$> Ast.parse leakyRecord.options (leakyTree.renderWith false) =
        .ok [.node 1 [.node 2 []]] ∧
      build leakyRecord.options leakyStencil leakyTree = .error (.slotCountMismatch "S" 2 3) := by
  refine ⟨?_, ?_, ?_, ?_⟩
  · rfl
  · rfl
  · rfl
  · rfl

end Pattern

end SchemaMatch
