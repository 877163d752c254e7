import SchemaMatch.Pattern.Find
import SchemaMatch.Proofs.Compilation.Fit
import SchemaMatch.Proofs.Pattern.Semantics
import SchemaMatch.Proofs.Text.Slice

/-!
# Matches fit the stencil

Whatever a compiled pattern matches, its regions are laid out as the schema says, as long as the
fragments are self-contained. The main statement is `Pattern.fits_of_compile`.
-/

namespace SchemaMatch

open Regex

namespace Expr

variable {options : Options} {subject : Subject}

/-- What has been captured ends where it started or after it. -/
def Ordered (arrival : Arrival) : Prop :=
  ∀ captured ∈ arrival.captured, captured.start ≤ captured.stop

mutual

theorem ordered_of_mem_ways : (expr : Expr) → {start way : Arrival} → Ordered start →
    way ∈ expr.ways options subject start → start.position ≤ way.position ∧ Ordered way
  | fragment text, start, way, ordered, member => by
    obtain ⟨arrival, among, rfl⟩ := List.mem_map.1 member
    have travelled := Term.arrivals_over subject _ _ arrival among
    exact ⟨travelled.le, ordered⟩
  | concat parts, start, way, ordered, member => ordered_of_mem_waysAll parts ordered member
  | capture slot _ expr, start, way, ordered, member => by
    obtain ⟨inner, among, rfl⟩ := List.mem_map.1 member
    obtain ⟨forward, inside⟩ := ordered_of_mem_ways expr ordered among
    refine ⟨forward, fun captured member => ?_⟩
    rcases List.mem_cons.1 member with rfl | member
    · exact forward
    · exact inside captured member
  | optional expr, start, way, ordered, member => by
    rcases List.mem_append.1 member with member | member
    · exact ordered_of_mem_ways expr ordered member
    · cases List.mem_singleton.1 member
      exact ⟨Nat.le_refl _, ordered⟩
  | alternation parts, start, way, ordered, member => ordered_of_mem_waysAny parts ordered member

theorem ordered_of_mem_waysAll : (exprs : List Expr) → {start way : Arrival} → Ordered start →
    way ∈ waysAll options subject exprs start → start.position ≤ way.position ∧ Ordered way
  | [], start, way, ordered, member => by
    cases List.mem_singleton.1 member
    exact ⟨Nat.le_refl _, ordered⟩
  | expr :: rest, start, way, ordered, member => by
    obtain ⟨inner, among, member⟩ := List.mem_flatMap.1 member
    obtain ⟨forward, inside⟩ := ordered_of_mem_ways expr ordered among
    obtain ⟨onward, after⟩ := ordered_of_mem_waysAll rest inside member
    exact ⟨Nat.le_trans forward onward, after⟩

theorem ordered_of_mem_waysAny : (exprs : List Expr) → {start way : Arrival} → Ordered start →
    way ∈ waysAny options subject exprs start → start.position ≤ way.position ∧ Ordered way
  | [], _, _, _, member => nomatch member
  | expr :: rest, start, way, ordered, member => by
    rcases List.mem_append.1 member with member | member
    · exact ordered_of_mem_ways expr ordered member
    · exact ordered_of_mem_waysAny rest ordered member

end

theorem region?_regions (expr : Expr) (input : String) (way : Arrival) (slot : Nat) :
    (⟨input, expr.regions (.ofString input) way⟩ : Match).region? slot =
      if slot < expr.captureCount then
        Stencil.inUnit (Subject.ofString input).byteOffset way.region? slot
      else none := by
  simp only [Match.region?, regions, List.getElem?_map]
  split
  · rename_i inside
    rw [List.getElem?_range inside]
    simp only [Option.map_some, Option.join_some, Stencil.inUnit, Arrival.region?, Option.map_map]
    rfl
  · rename_i outside
    rw [List.getElem?_eq_none (by rw [List.length_range]; omega)]
    rfl

end Expr

namespace Pattern

variable {scope : Scope} {root : SchemaId} {pattern : Pattern}

/-- A pattern that compiles is a compiled tree whose pattern the engine has accepted. -/
theorem parts_of_compile [Regex.SizeMeasure] (success : compile scope root = .ok pattern) :
    scope.compile root = .ok (pattern.stencil, pattern.expr) ∧
      Regex.compile scope.options (pattern.expr.renderWith scope.options.swapGreed) =
        .ok pattern.regex := by
  obtain ⟨⟨stencil, expr⟩, compiled, built⟩ := bind_eq_ok_iff.1 success
  simp only [build] at built
  split at built
  · cases built
  · rename_i accepted
    split at built
    · cases built
      exact ⟨compiled, accepted⟩
    · cases built

/-- The matches of an input, the leftmost one and those that follow each other, are matches of the
term of the pattern. -/
theorem exists_isMatch {input : String} {m : Match}
    (found : pattern.match? input = some m ∨ m ∈ pattern.allMatches input) :
    ∃ found, pattern.regex.term.IsMatch (.ofString input) found ∧
      m = ⟨input, pattern.regex.regions (.ofString input) found⟩ := by
  rcases found with first | member
  · obtain ⟨regions, matched, rfl⟩ := Option.map_eq_some_iff.1 first
    obtain ⟨found, search, rfl⟩ := Option.map_eq_some_iff.1 matched
    exact ⟨found, Term.isMatch_of_firstMatch? search, rfl⟩
  · obtain ⟨regions, matched, rfl⟩ := List.mem_map.1 member
    obtain ⟨found, search, rfl⟩ := List.mem_map.1 matched
    exact ⟨found, Term.isMatch_of_mem_allMatches search, rfl⟩

/-- If the fragments of a compiled pattern are self-contained, a match is the preferred way of the
tree from where it starts, and has the regions of that way. -/
theorem way_of_isMatch [Regex.SizeMeasure] (reachable : scope.registry.Reachable)
    (success : compile scope root = .ok pattern)
    (contained : ∀ text, .fragment text ∈ pattern.expr.nodes →
      Fragment.IsSelfContained scope.options text) {input : String} {found : Nat × Arrival}
    (matched : pattern.regex.term.IsMatch (.ofString input) found) :
    (pattern.expr.ways scope.options (.ofString input) (.initial found.1)).head? =
        some (found.2.capture 0 found.1) ∧
      (⟨input, pattern.regex.regions (.ofString input) found⟩ : Match).region? =
        Stencil.inUnit (Subject.ofString input).byteOffset
          (found.2.capture 0 found.1).region? := by
  obtain ⟨compiled, accepted⟩ := parts_of_compile success
  have means := parse_of_regex accepted
  have count := groupCount_of_compile compiled contained means
  have preferred := matchAt?_of_compile reachable compiled contained means (.ofString input) found.1
  rw [matched.preferred, Option.map_some] at preferred
  refine ⟨preferred, funext fun slot => ?_⟩
  obtain ⟨next, laid⟩ := Scope.laid_of_compile compiled
  have tiles : pattern.stencil.Tiles 0 next := laid.tiles
  have whole : pattern.expr.captureCount = next := by
    have captured : pattern.expr.captures = pattern.stencil.labels := laid.captures
    have stops := (Stencil.Tiles.labels _ tiles).1
    rw [Expr.captureCount, captured]
    omega
  have member := List.mem_of_mem_head? (Option.mem_def.2 preferred)
  obtain ⟨step, _, _⟩ := laid.fitsWays (.ofString input) _ _ (fun _ _ _ => rfl) member
  rw [← regions_capture count, Expr.region?_regions, whole]
  split
  · rfl
  · rename_i beyond
    rw [Stencil.inUnit, step.outside slot (.inr (Nat.le_of_not_lt beyond))]
    rfl

/-- If the fragments of a compiled pattern are self-contained, the regions of each match fit the
stencil. -/
theorem fits_of_isMatch [Regex.SizeMeasure] (reachable : scope.registry.Reachable)
    (success : compile scope root = .ok pattern)
    (contained : ∀ text, .fragment text ∈ pattern.expr.nodes →
      Fragment.IsSelfContained scope.options text) {input : String} {found : Nat × Arrival}
    (matched : pattern.regex.term.IsMatch (.ofString input) found) :
    pattern.stencil.Fits scope
      (⟨input, pattern.regex.regions (.ofString input) found⟩ : Match).region? := by
  obtain ⟨preferred, regions⟩ := way_of_isMatch reachable success contained matched
  obtain ⟨next, laid⟩ := Scope.laid_of_compile (parts_of_compile success).1
  have member := List.mem_of_mem_head? (Option.mem_def.2 preferred)
  obtain ⟨_, _, fits⟩ := laid.fitsWays (.ofString input) _ _ (fun _ _ _ => rfl) member
  rw [regions]
  exact Stencil.Fits.inUnit Text.byteOffset_le _ fits

/-- If the fragments of a compiled pattern are self-contained, the regions of each match of an input
fit the stencil: the whole match takes part, records and fields share out what it covers as the
schema says, and every region is a slice of the input. -/
theorem fits_of_compile [Regex.SizeMeasure] (reachable : scope.registry.Reachable)
    (success : compile scope root = .ok pattern)
    (contained : ∀ text, .fragment text ∈ pattern.expr.nodes →
      Fragment.IsSelfContained scope.options text) {input : String} {m : Match}
    (found : pattern.match? input = some m ∨ m ∈ pattern.allMatches input) :
    (m.region? 0).isSome = true ∧ pattern.stencil.Fits scope m.region? ∧
      ∀ slot region, m.region? slot = some region → (Text.slice? input region).isSome = true := by
  obtain ⟨⟨position, arrival⟩, matched, rfl⟩ := exists_isMatch found
  obtain ⟨preferred, regions⟩ := way_of_isMatch reachable success contained matched
  have nothing : Expr.Ordered (.initial position) := fun captured among => by cases among
  have member := List.mem_of_mem_head? (Option.mem_def.2 preferred)
  obtain ⟨_, ordered⟩ := Expr.ordered_of_mem_ways pattern.expr nothing member
  refine ⟨rfl, fits_of_isMatch reachable success contained matched, fun slot region held => ?_⟩
  rw [regions] at held
  obtain ⟨stretch, covers, rfl⟩ := Option.map_eq_some_iff.1 held
  obtain ⟨captured, among, rfl⟩ := Option.map_eq_some_iff.1 covers
  have order := ordered captured (List.mem_of_find?_eq_some among)
  exact Option.isSome_iff_exists.2 ⟨_, Text.slice?_byteOffset order⟩

/-- The leftmost match of `samplePair` in a text without an item: its field covers nothing there. -/
theorem fits_of_compile_samplePair :
    ∃ pattern m, compile samplePair 0 = .ok pattern ∧ pattern.stencil = samplePairStencil ∧
      pattern.match? "xa-c" = some m ∧ m.region? 2 = some ⟨3, 3⟩ ∧ m.region? 3 = none ∧
      samplePairStencil.Fits samplePair m.region? ∧
      ∀ slot region, m.region? slot = some region → (Text.slice? "xa-c" region).isSome = true := by
  have compiles : (fun pattern => (pattern.stencil, pattern.expr)) <$> compile samplePair 0 =
      .ok (samplePairStencil, samplePairTree) := rfl
  have matched : (compile samplePair 0).toOption.map (fun pattern => pattern.match? "xa-c") =
      some (some ⟨"xa-c", [some ⟨1, 3⟩, some ⟨1, 2⟩, some ⟨3, 3⟩, none, none, none]⟩) := by
    decide +kernel
  obtain ⟨pattern, success, parts⟩ := map_eq_ok_iff.1 compiles
  obtain ⟨stencil, tree⟩ := Prod.mk.inj parts
  rw [success] at matched
  have found := Option.some.inj matched
  obtain ⟨_, fits, slices⟩ :=
    fits_of_compile .empty success (tree ▸ isSelfContained_samplePair) (.inl found)
  exact ⟨pattern, _, success, stencil, found, rfl, rfl, stencil ▸ fits, slices⟩

/-- A separator that leaves a comment open once it has lost a blank, and a text whose normal form
has a group if it is read without the line break before it. -/
def leakyPair : Scope where
  family := {
    schemas := [⟨"S", "S", [.separator "[!- -[](?-x:]]#)",
      ⟨"f", .scalar "(?-x)[\n(a)?(?:]" (.storable .text), 0⟩]⟩]
    capabilities := [] }
  registry := .empty
  options := { ignoreWhitespace := true }

/-- The stencil of `leakyPair`. -/
def leakyPairStencil : Stencil := .mk 0 "S" "S" 0 [.separator, .scalar "f" 1 0 .text]

/-- The comment takes in the group of the capture and the start of the class in it, so what was a
character of the class is a group, and an optional one: a match need not give its field a region. -/
theorem fits_leakyPair :
    ∃ pattern m, compile leakyPair 0 = .ok pattern ∧ pattern.stencil = leakyPairStencil ∧
      pattern.match? "!]" = some m ∧ m.region? 0 = some ⟨0, 2⟩ ∧ m.region? 1 = none ∧
      ¬leakyPairStencil.Fits leakyPair m.region? := by
  have compiles : Prod.fst <$> leakyPair.compile 0 = .ok leakyPairStencil := rfl
  have matched : (compile leakyPair 0).toOption.map (fun pattern => pattern.match? "!]") =
      some (some ⟨"!]", [some ⟨0, 2⟩, none]⟩) := by
    decide +kernel
  cases success : compile leakyPair 0 with
  | error error =>
    rw [success] at matched
    cases matched
  | ok pattern =>
    rw [success] at matched
    rw [(parts_of_compile success).1] at compiles
    refine ⟨pattern, _, rfl, Except.ok.inj compiles, Option.some.inj matched, rfl, rfl, ?_⟩
    rintro ⟨middle, _, start, _, held, _⟩
    cases held

end Pattern

end SchemaMatch
