import SchemaMatch.Proofs.Compilation.Reordering
import SchemaMatch.Proofs.Pattern.Agreement
import SchemaMatch.Proofs.Pattern.Fit

/-!
# The order of variants decides ties only

Whether a pattern matches an input, and where its leftmost match starts, is read off what its schema
covers, in which variants have no order. So registries that list the same variants in different
orders give patterns that agree on both. The main statement is
`Pattern.reordering_preserves_starts`.
-/

namespace SchemaMatch

open Regex Compilation

/-- A root covers something from a position of a subject, and nothing from any earlier one. -/
structure Scope.StartsAt (scope : Scope) (root : SchemaId) (subject : Subject) (position : Nat) :
    Prop where
  inside : position ≤ subject.size
  covers : ∃ stop, scope.Covers subject (.record root) position stop
  first : ∀ earlier, earlier < position → ∀ stop,
    ¬scope.Covers subject (.record root) earlier stop

theorem Scope.StartsAt.reordered {scope : Scope} {other : Registry} {root : SchemaId}
    {subject : Subject} {position : Nat} (reordering : scope.registry.IsReordering other)
    (starts : scope.StartsAt root subject position) :
    { scope with registry := other }.StartsAt root subject position := by
  obtain ⟨inside, ⟨stop, covers⟩, first⟩ := starts
  refine ⟨inside, ⟨stop, covers.reordered reordering⟩, fun earlier less stop before => ?_⟩
  exact first earlier less stop ((covers_iff_of_reordering reordering).1 before)

namespace Expr

variable {options : Options} {subject : Subject} {expr : Expr}

theorem start_firstMatch?_eq_some_iff {position : Nat} :
    (expr.firstMatch? options subject).map Prod.fst = some position ↔
      position ≤ subject.size ∧ expr.ways options subject (.initial position) ≠ [] ∧
        ∀ earlier, earlier < position → expr.ways options subject (.initial earlier) = [] := by
  have starts : (expr.firstMatch? options subject).map Prod.fst =
      (List.range (subject.size + 1)).find? fun position =>
        !(expr.ways options subject (.initial position)).isEmpty := by
    rw [firstMatch?, List.map_findSome?, ← List.findSome?_guard]
    refine findSome?_congr fun position _ => ?_
    rw [Function.comp_apply, Option.guard]
    cases expr.ways options subject (.initial position) <;> rfl
  rw [starts, List.find?_range_eq_some]
  simp only [List.mem_range, Nat.lt_succ_iff, Bool.not_eq_true', List.isEmpty_eq_false_iff,
    Bool.not_not, List.isEmpty_iff]
  tauto

end Expr

namespace Pattern

variable {scope : Scope} {other : Registry} {root : SchemaId} {pattern pattern' : Pattern}

/-- Where the leftmost match of an input starts, in bytes. -/
def start? (pattern : Pattern) (input : String) : Option Nat :=
  ((pattern.match? input).bind Match.whole?).map Region.start

theorem start?_eq (pattern : Pattern) (input : String) :
    pattern.start? input =
      ((pattern.regex.term.firstMatch? (.ofString input)).map Prod.fst).map
        (Subject.ofString input).byteOffset := by
  rw [start?, match?, Regex.find?]
  cases pattern.regex.term.firstMatch? (.ofString input) <;> rfl

theorem isMatch_eq_isSome_start? (pattern : Pattern) (input : String) :
    pattern.isMatch input = (pattern.start? input).isSome := by
  rw [isMatch_eq_isSome, start?_eq, match?, Regex.find?, Option.isSome_map, Option.isSome_map,
    Option.isSome_map, Option.isSome_map]

/-- If the fragments of a compiled pattern are self-contained, the leftmost match of its term starts
where that of its tree does. -/
theorem start_firstMatch?_of_compile [Regex.SizeMeasure] (reachable : scope.registry.Reachable)
    (success : compile scope root = .ok pattern)
    (contained : ∀ text, .fragment text ∈ pattern.expr.nodes →
      Fragment.IsSelfContained scope.options text) (subject : Subject) :
    (pattern.regex.term.firstMatch? subject).map Prod.fst =
      (pattern.expr.firstMatch? scope.options subject).map Prod.fst := by
  obtain ⟨compiled, accepted⟩ := parts_of_compile success
  rw [firstMatch?_of_compile reachable compiled contained (parse_of_regex accepted) subject,
    Option.map_map]
  rfl

/-- The leftmost match of an input starts at the first position from which the schema covers
something. -/
theorem startsAt_iff [Regex.SizeMeasure] (reachable : scope.registry.Reachable)
    (success : compile scope root = .ok pattern)
    (contained : ∀ text, .fragment text ∈ pattern.expr.nodes →
      Fragment.IsSelfContained scope.options text) (subject : Subject) (position : Nat) :
    (pattern.regex.term.firstMatch? subject).map Prod.fst = some position ↔
      scope.StartsAt root subject position := by
  obtain ⟨next, laid⟩ := Scope.laid_of_compile (parts_of_compile success).1
  have covered (position : Nat) :
      pattern.expr.ways scope.options subject (.initial position) ≠ [] ↔
        ∃ stop, scope.Covers subject (.record root) position stop := by
    rw [← exists_endsAt_iff]
    exact exists_congr (laid.endsAsCovered subject (.initial position))
  rw [start_firstMatch?_of_compile reachable success contained,
    Expr.start_firstMatch?_eq_some_iff, covered]
  constructor
  · rintro ⟨inside, covers, first⟩
    refine ⟨inside, covers, fun earlier less stop before => ?_⟩
    exact (covered earlier).2 ⟨stop, before⟩ (first earlier less)
  · rintro ⟨inside, covers, first⟩
    refine ⟨inside, covers, fun earlier less => ?_⟩
    refine Decidable.byContradiction fun given => ?_
    obtain ⟨stop, before⟩ := (covered earlier).1 given
    exact first earlier less stop before

/-- Under a reordering of the variants the fragments of a pattern are still self-contained. -/
theorem contained_of_reordering [Regex.SizeMeasure] (reordering : scope.registry.IsReordering other)
    (success : compile scope root = .ok pattern)
    (success' : compile { scope with registry := other } root = .ok pattern')
    (contained : ∀ text, .fragment text ∈ pattern.expr.nodes →
      Fragment.IsSelfContained scope.options text) :
    ∀ text, .fragment text ∈ pattern'.expr.nodes →
      Fragment.IsSelfContained scope.options text := by
  intro text member
  obtain ⟨next, laid⟩ := Scope.laid_of_compile (parts_of_compile success).1
  obtain ⟨next', laid'⟩ := Scope.laid_of_compile (parts_of_compile success').1
  have prints := (laid'.printsAlike text).1 (Expr.mem_fragments.2 member)
  have before : scope.Prints root text := prints.reordered reordering.symm
  exact contained text (Expr.mem_fragments.1 ((laid.printsAlike text).2 before))

/-- If two registries list the same variants of the same capabilities in different orders, a root
compiles under both or under neither. If both of its patterns build and the fragments are
self-contained, they match the same inputs, and the leftmost matches of an input start at the same
offset. -/
theorem reordering_preserves_starts [Regex.SizeMeasure] (reachable : scope.registry.Reachable)
    (reachable' : other.Reachable) (reordering : scope.registry.IsReordering other) :
    ((∃ part, scope.compile root = .ok part) ↔
      ∃ part, { scope with registry := other }.compile root = .ok part) ∧
    ∀ pattern pattern', compile scope root = .ok pattern →
      compile { scope with registry := other } root = .ok pattern' →
      (∀ text, .fragment text ∈ pattern.expr.nodes →
        Fragment.IsSelfContained scope.options text) →
      ∀ input, pattern'.isMatch input = pattern.isMatch input ∧
        pattern'.start? input = pattern.start? input := by
  refine ⟨Scope.compiles_iff_of_reordering reordering, ?_⟩
  intro pattern pattern' success success' contained input
  have contained' := contained_of_reordering reordering success success' contained
  have starts : pattern'.start? input = pattern.start? input := by
    rw [start?_eq, start?_eq]
    congr 1
    ext position
    rw [startsAt_iff reachable success contained, startsAt_iff reachable' success' contained']
    exact ⟨@Scope.StartsAt.reordered { scope with registry := other } _ _ _ _ reordering.symm,
      .reordered reordering⟩
  exact ⟨by rw [isMatch_eq_isSome_start?, isMatch_eq_isSome_start?, starts], starts⟩

/-- The registry of `sampleBasket` with a gap tried before an item. -/
def gapFirst : Registry := ⟨[⟨0, "Thing", [2, 1]⟩]⟩

theorem isSelfContained_sampleBasket (text : String)
    (member : .fragment text ∈ sampleBasketTree.nodes) :
    Fragment.IsSelfContained sampleBasket.options text := by
  have listed : text = "a" ∨ text = ", " ∨ text = "a" := by
    simpa [sampleBasketTree, Expr.nodes, Expr.nodesAll, Expr.empty] using member
  rcases listed with rfl | rfl | rfl
  all_goals exact ⟨_, rfl, rfl, fun other success => by cases success⟩

theorem isReordering_swap (capability : CapabilityId) (name : String) (one two : SchemaId) :
    Registry.IsReordering ⟨[⟨capability, name, [one, two]⟩]⟩
      ⟨[⟨capability, name, [two, one]⟩]⟩ := by
  intro asked
  simp only [Registry.variants?, Registry.lookup?, List.find?_cons, List.find?_nil]
  cases capability == asked with
  | true => exact .some (.swap two one [])
  | false => exact .none

/-- The leftmost match of `sampleBasket` starts at the same offset if a gap is tried before an
item. -/
theorem reordering_preserves_starts_sampleBasket :
    ∃ pattern pattern', compile sampleBasket 0 = .ok pattern ∧
      compile { sampleBasket with registry := gapFirst } 0 = .ok pattern' ∧
      pattern.start? "xa, a" = some 1 ∧ pattern'.start? "xa, a" = some 1 ∧
      pattern'.isMatch "xa, a" = pattern.isMatch "xa, a" := by
  have compiles : (fun pattern => (pattern.stencil, pattern.expr)) <$> compile sampleBasket 0 =
      .ok (sampleBasketStencil, sampleBasketTree) := rfl
  have compiles' : (fun _ => ()) <$> compile { sampleBasket with registry := gapFirst } 0 =
      .ok () := rfl
  obtain ⟨pattern, success, parts⟩ := map_eq_ok_iff.1 compiles
  obtain ⟨pattern', success', _⟩ := map_eq_ok_iff.1 compiles'
  obtain ⟨_, tree⟩ := Prod.mk.inj parts
  have registered : Registry.register sampleBasket.family .empty 0
      (.offer 1 (.offer 2 .finished)) = .ok sampleBasket.registry := rfl
  have registered' : Registry.register sampleBasket.family .empty 0
      (.offer 2 (.offer 1 .finished)) = .ok gapFirst := rfl
  have contained : ∀ text, .fragment text ∈ pattern.expr.nodes →
      Fragment.IsSelfContained sampleBasket.options text :=
    tree ▸ isSelfContained_sampleBasket
  have starts : pattern.start? "xa, a" = some 1 := by
    rw [start?_eq, start_firstMatch?_of_compile (.register .empty registered) success contained,
      tree]
    decide +kernel
  obtain ⟨_, agree⟩ := reordering_preserves_starts (.register .empty registered)
    (.register .empty registered') (isReordering_swap 0 "Thing" 1 2)
  obtain ⟨matches', starts'⟩ := agree pattern pattern' success success' contained "xa, a"
  exact ⟨pattern, pattern', success, success', starts, starts'.trans starts, matches'⟩

/-- A union of two separators, before a class of closing parentheses. The first separator leaves a
comment open once it has lost a blank, which goes on to the next line break; the second is a class
that holds a group behind a line break. -/
def looseUnion : Scope where
  family := {
    schemas := [⟨"R", "R", [⟨"u", .union "" 0, 0⟩, .separator "[\n)))]"]⟩,
      ⟨"A", "A", [.separator "(?x)[!- -[](?-x:]]#)"]⟩,
      ⟨"B", "B", [.separator "[\n(b)]"]⟩]
    capabilities := ["C"] }
  registry := ⟨[⟨0, "C", [1, 2]⟩]⟩
  options := {}

/-- The registry of `looseUnion` with its variants in the other order. -/
def looseLast : Registry := ⟨[⟨0, "C", [2, 1]⟩]⟩

/-- The comment takes in the bar of the union if it is left open by the first variant, and the class
after the union if it is left open by the last one: the patterns of the two orders do not match the
same inputs. -/
theorem isMatch_looseUnion :
    looseUnion.registry.Reachable ∧ looseLast.Reachable ∧
      looseUnion.registry.IsReordering looseLast ∧
      ∃ pattern pattern', compile looseUnion 0 = .ok pattern ∧
        compile { looseUnion with registry := looseLast } 0 = .ok pattern' ∧
        pattern.isMatch "!]" = false ∧ pattern'.isMatch "!]" = true := by
  have registered : Registry.register looseUnion.family .empty 0
      (.offer 1 (.offer 2 .finished)) = .ok looseUnion.registry := rfl
  have registered' : Registry.register looseUnion.family .empty 0
      (.offer 2 (.offer 1 .finished)) = .ok looseLast := rfl
  have fails : (compile looseUnion 0).toOption.map (·.isMatch "!]") = some false := by
    decide +kernel
  have matched : (compile { looseUnion with registry := looseLast } 0).toOption.map
      (·.isMatch "!]") = some true := by
    decide +kernel
  refine ⟨.register .empty registered, .register .empty registered',
    isReordering_swap 0 "C" 1 2, ?_⟩
  cases success : compile looseUnion 0 with
  | error error =>
    rw [success] at fails
    cases fails
  | ok pattern =>
    cases success' : compile { looseUnion with registry := looseLast } 0 with
    | error error =>
      rw [success'] at matched
      cases matched
    | ok pattern' =>
      rw [success] at fails
      rw [success'] at matched
      exact ⟨pattern, pattern', rfl, rfl, Option.some.inj fails, Option.some.inj matched⟩

end Pattern

end SchemaMatch
