import SchemaMatch.Proofs.Pattern.Build
import SchemaMatch.Proofs.Regex.Search

/-!
# Composed patterns mean what their trees say

Matching the pattern of a compiled tree gives the regions that the tree itself says, as long as the
fragments are self-contained. The main statement is `Pattern.find?_of_compile`.
-/

namespace SchemaMatch

open Regex

namespace Pattern

variable {scope : Scope} {root : SchemaId} {stencil : Stencil} {expr : Expr}

/-- The preferred arrival of the term of a compiled tree is the preferred way of the tree, but for
the capture of the whole match. -/
theorem matchAt?_of_compile (reachable : scope.registry.Reachable)
    (success : scope.compile root = .ok (stencil, expr))
    (contained : ∀ text, .fragment text ∈ expr.nodes →
      Fragment.IsSelfContained scope.options text) {term : Term}
    (means : Term.parse scope.options (expr.renderWith scope.options.swapGreed) = .ok term)
    (subject : Subject) (position : Nat) :
    (expr.ways scope.options subject (.initial position)).head? =
      (term.matchAt? subject position).map (Arrival.capture 0 position) := by
  obtain ⟨name, exprs, equal, numbered, made⟩ := Scope.composed_of_compile success
  have sound := Compilation.isSound_of_isMade made contained
  have given := Compilation.hasBranches_of_isMade made reachable
  rw [equal] at sound given numbered means ⊢
  have sound := (Expr.onNodes_concat.1 (Expr.onNodes_capture.1 sound).2).2
  have given := (Expr.onNodes_concat.1 (Expr.onNodes_capture.1 given).2).2
  rcases Expr.parse_rendered name sound numbered with ⟨ast, _, _, found⟩ | ⟨span, deep⟩
  · rw [found] at means
    cases means
    have same := Expr.sameChoice_waysAll subject exprs sound given numbered (.initial position)
    have joined := Term.sameChoice_joined subject (Expr.termsAll scope.options exprs)
      (.initial position)
    rw [Term.matchAt?, ← (same.trans joined.symm).head?, ← List.head?_map]
    rfl
  · simp only [Term.parse, deep, error_bind] at means
    cases means

theorem regions_capture {regex : Regex} (count : regex.groupCount = expr.captureCount)
    (subject : Subject) (position : Nat) (arrival : Arrival) :
    expr.regions subject (arrival.capture 0 position) =
      regex.regions subject (position, arrival) := by
  have others (slot : Nat) :
      (arrival.capture 0 position).group? (slot + 1) = arrival.group? (slot + 1) := rfl
  rw [Expr.regions, ← count, Regex.groupCount, List.range_succ_eq_map, List.map_cons, List.map_map]
  refine congrArg _ (List.map_congr_left fun slot _ => ?_)
  change Option.map _ ((arrival.capture 0 position).group? (slot + 1)) = _
  rw [others]

theorem parse_of_regex [SizeMeasure] {options : Options} {text : String} {regex : Regex}
    (compiled : Regex.compile options text = .ok regex) :
    Term.parse options text = .ok regex.term := by
  simp only [Regex.compile] at compiled
  split at compiled
  · cases compiled
  · rename_i term means
    split at compiled
    · cases compiled
    · rw [means, ← Except.ok.inj compiled]

theorem groupCount_of_compile (success : scope.compile root = .ok (stencil, expr))
    (contained : ∀ text, .fragment text ∈ expr.nodes →
      Fragment.IsSelfContained scope.options text) {regex : Regex}
    (means : Term.parse scope.options (expr.renderWith scope.options.swapGreed) =
      .ok regex.term) :
    regex.groupCount = expr.captureCount := by
  rcases parse_of_compile success contained with ⟨_, found, _, _, again, count⟩ | ⟨span, deep⟩
  · rw [again] at means
    cases means
    exact count
  · simp only [Term.parse, deep, error_bind] at means
    cases means

/-- The leftmost match of the term of a compiled tree starts where that of the tree does, and is the
same way but for the capture of the whole match. -/
theorem firstMatch?_of_compile (reachable : scope.registry.Reachable)
    (success : scope.compile root = .ok (stencil, expr))
    (contained : ∀ text, .fragment text ∈ expr.nodes →
      Fragment.IsSelfContained scope.options text) {term : Term}
    (means : Term.parse scope.options (expr.renderWith scope.options.swapGreed) = .ok term)
    (subject : Subject) :
    expr.firstMatch? scope.options subject =
      (term.firstMatch? subject).map fun found => (found.1, found.2.capture 0 found.1) := by
  have ways (position : Nat) :
      ((expr.ways scope.options subject (.initial position)).head?.map
        fun way => (position, way)) =
      ((term.matchAt? subject position).map fun arrival => (position, arrival)).map
        fun found => (found.1, found.2.capture 0 found.1) := by
    rw [matchAt?_of_compile reachable success contained means, Option.map_map, Option.map_map]
    rfl
  rw [Term.firstMatch?_eq_findSome?, List.map_findSome?, Expr.firstMatch?]
  exact congrArg (fun f => (List.range _).findSome? f) (funext ways)

/-- If the fragments of a compiled tree are self-contained, and its pattern compiles under the same
options, the leftmost match of every input has the regions that the tree says: each fragment matches
what it matches alone, parts match in order, captures record what they cover, and what is optional
and earlier branches are preferred. -/
theorem find?_of_compile [SizeMeasure] (reachable : scope.registry.Reachable)
    (success : scope.compile root = .ok (stencil, expr))
    (contained : ∀ text, .fragment text ∈ expr.nodes →
      Fragment.IsSelfContained scope.options text) {regex : Regex}
    (compiled : Regex.compile scope.options (expr.renderWith scope.options.swapGreed) = .ok regex)
    (input : String) :
    regex.find? input = expr.find? scope.options input := by
  have means := parse_of_regex compiled
  have count := groupCount_of_compile success contained means
  rw [Expr.find?, firstMatch?_of_compile reachable success contained means, Option.map_map]
  refine congrArg (fun f => Option.map f _) (funext fun found => ?_)
  exact (regions_capture count _ found.1 found.2).symm

/-- The leftmost match of `samplePair` in a text covers what its tree says. -/
theorem find?_of_compile_samplePair :
    samplePair.compile 0 = .ok (samplePairStencil, samplePairTree) ∧
      ∃ regex, Regex.compile samplePair.options (samplePairTree.renderWith false) = .ok regex ∧
        regex.find? "xa-b" = some [some ⟨1, 4⟩, some ⟨1, 2⟩, some ⟨3, 4⟩, some ⟨3, 4⟩,
          some ⟨3, 3⟩, some ⟨3, 4⟩] := by
  have success : samplePair.compile 0 = .ok (samplePairStencil, samplePairTree) := rfl
  have compiles : (fun _ => ()) <$>
      Regex.compile samplePair.options (samplePairTree.renderWith false) = .ok () := rfl
  obtain ⟨regex, compiled, _⟩ := map_eq_ok_iff.1 compiles
  refine ⟨success, regex, compiled, ?_⟩
  rw [find?_of_compile .empty success isSelfContained_samplePair compiled]
  decide +kernel

/-- Two separators. The first is a class with a blank between two hyphens and a group in which a
number sign stands for itself, the second some text in which a line break does. -/
def fusedPair : Scope where
  family := {
    schemas := [⟨"S", "S", [.separator "[!- -[](?-x:]]#)", .separator "(?-x)x\ny"]⟩]
    capabilities := [] }
  registry := .empty
  options := { ignoreWhitespace := true }

/-- The stencil of `fusedPair`. -/
def fusedPairStencil : Stencil := .mk 0 "S" "S" 0 [.separator, .separator]

/-- The tree of `fusedPair`. -/
def fusedPairTree : Expr :=
  .capture 0 "S" (.concat [.fragment "[!--[](?-x:]]#)", .fragment "(?-x)x\ny"])

/-- Without its blank the class of `fusedPair` takes in the start of the group, and the number sign
starts a comment that goes on to the line break: the pattern matches what the tree does not, and
does not match what the tree does. -/
theorem find?_fusedPair :
    fusedPair.compile 0 = .ok (fusedPairStencil, fusedPairTree) ∧
      (Regex.compile fusedPair.options (fusedPairTree.renderWith false)).toOption.map
        (·.find? "!y") = some (some [some ⟨0, 2⟩]) ∧
      fusedPairTree.find? fusedPair.options "!y" = none ∧
      (Regex.compile fusedPair.options (fusedPairTree.renderWith false)).toOption.map
        (·.find? "!x\ny") = some none ∧
      fusedPairTree.find? fusedPair.options "!x\ny" = some [some ⟨0, 4⟩] := by
  refine ⟨?_, ?_, ?_, ?_, ?_⟩
  · rfl
  · decide +kernel
  · decide +kernel
  · decide +kernel
  · decide +kernel

end Pattern

end SchemaMatch
