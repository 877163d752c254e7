import SchemaMatch.Proofs.Compilation.Reach
import SchemaMatch.Proofs.Compilation.Uniqueness
import SchemaMatch.Proofs.Union.Run

/-!
# What a compilation depends on

A compilation depends on the variants of the capabilities that the root reaches and on no others.
The options have a say in the texts of fragments only, provided that it succeeds. The main statement
is `Scope.compile_depends_on_reached`.
-/

namespace SchemaMatch

/-- A tree without the texts of its fragments. -/
def Expr.outline (expr : Expr) : Expr := expr.mapFragments fun _ => ""

namespace Scope

variable {scope : Scope} {root : SchemaId} {other : Registry}

theorem Visits.congr
    (agree : ∀ capability, scope.Consults root capability →
      scope.registry.variants? capability = other.variants? capability)
    {id : SchemaId} (visits : { scope with registry := other }.Visits root id) :
    scope.Visits root id := by
  induction visits with
  | root => exact .root
  | nested visits member kind ih => exact .nested ih member kind
  | @variant id schema field marker capability entry visits member kind registered listed ih =>
    have same := agree capability ⟨id, field, marker, ih, member, kind⟩
    rw [Registry.variants?, Registry.variants?, registered, Option.map_some] at same
    obtain ⟨twin, found, alike⟩ := Option.map_eq_some_iff.1 same
    exact .variant ih member kind found (alike ▸ listed)

/-- Registries that agree on what is asked for under one of them are asked for the same. -/
theorem consults_congr
    (agree : ∀ capability, scope.Consults root capability →
      scope.registry.variants? capability = other.variants? capability) (capability : CapabilityId) :
    { scope with registry := other }.Consults root capability ↔
      scope.Consults root capability := by
  have agree' : ∀ capability, { scope with registry := other }.Consults root capability →
      other.variants? capability = scope.registry.variants? capability := by
    rintro capability ⟨id, field, marker, visits, declared⟩
    exact (agree capability ⟨id, field, marker, visits.congr agree, declared⟩).symm
  constructor
  · rintro ⟨id, field, marker, visits, declared⟩
    exact ⟨id, field, marker, visits.congr agree, declared⟩
  · rintro ⟨id, field, marker, visits, declared⟩
    exact ⟨id, field, marker, Visits.congr agree' visits, declared⟩

theorem variants?_performAll {family : Family} {calls : List Registration} {registry : Registry}
    {capability : CapabilityId} (others : ∀ call ∈ calls, call.capability ≠ capability) :
    (Registration.performAll family calls registry).2.variants? capability =
      registry.variants? capability := by
  have none : calls.find? (Registration.Provides capability ·) = none := by
    rw [List.find?_eq_none]
    intro call member
    simpa using fun provides : call.Provides capability => others call member provides.1
  rw [Registry.variants?, Registration.lookup?_performAll, none, Option.map_none, Option.or_none,
    Registry.variants?]

theorem outline_of_compile {options : Options} {stencil twin : Stencil} {expr tree : Expr}
    (success : scope.compile root = .ok (stencil, expr))
    (again : { scope with options }.compile root = .ok (twin, tree)) :
    twin = stencil ∧ tree.outline = expr.outline := by
  obtain ⟨next, laid⟩ := laid_of_compile success
  obtain ⟨last, other⟩ := laid_of_compile again
  have only : (Compilation.Part.record root stencil expr).IsOnly { scope with options }
      (fun _ => "") 0 next := laid.isOnly fun _ _ _ _ _ => rfl
  obtain ⟨_, stencils, trees⟩ := only other
  exact ⟨stencils, trees⟩

/-- A compilation depends on what the root reaches. Registries that have the same variants for the
capabilities that are reached give the same result, be it a stencil and a tree or an error, and the
same is reached under both. Registrations for other capabilities, accepted or not, change nothing.
Under any options under which it succeeds the stencil is the same and the tree as well, save for the
texts of fragments. -/
theorem compile_depends_on_reached (scope : Scope) (root : SchemaId) :
    (∀ other : Registry, (∀ capability, scope.Consults root capability →
        scope.registry.variants? capability = other.variants? capability) →
      { scope with registry := other }.compile root = scope.compile root ∧
      ∀ capability, { scope with registry := other }.Consults root capability ↔
        scope.Consults root capability) ∧
    (∀ calls : List Registration, (∀ call ∈ calls, ¬scope.Consults root call.capability) →
      { scope with registry :=
          (Registration.performAll scope.family calls scope.registry).2 }.compile root =
        scope.compile root) ∧
    ∀ options stencil expr twin tree, scope.compile root = .ok (stencil, expr) →
      { scope with options }.compile root = .ok (twin, tree) →
      twin = stencil ∧ tree.outline = expr.outline := by
  refine ⟨?_, ?_, ?_⟩
  · intro other agree
    exact ⟨(compile_congr agree).symm, consults_congr agree⟩
  · intro calls others
    refine (compile_congr fun capability consults => ?_).symm
    rw [variants?_performAll]
    rintro call member rfl
    exact others call member consults
  · intro options stencil expr twin tree success again
    exact outline_of_compile success again

theorem eq_of_consults_sampleBasket {capability : CapabilityId}
    (consults : sampleBasket.Consults 0 capability) : capability = 0 := by
  obtain ⟨id, field, marker, _, member, kind⟩ := consults
  match id with
  | 0 =>
    simp only [sampleBasket, Family.schema, List.getElem?_cons_zero, Option.getD_some,
      List.mem_cons, List.not_mem_nil, or_false] at member
    rcases member with rfl | rfl | rfl
    · cases kind
    · cases kind
    · cases kind
      rfl
  | 1 =>
    cases List.mem_singleton.1 member
    cases kind
  | 2 =>
    cases List.mem_singleton.1 member
    cases kind
  | id + 3 => cases member

/-- A basket compiles alike where a further capability is registered before or after its own, and
under options for which the blank in its separator does not count. -/
theorem compile_depends_on_reached_sampleBasket :
    { sampleBasket with registry :=
        ⟨[⟨1, "Other", [2]⟩, ⟨0, "Thing", [1, 2]⟩]⟩ }.compile 0 = sampleBasket.compile 0 ∧
      { sampleBasket with registry := (Registration.performAll sampleBasket.family
        [⟨1, .offer 0 .finished⟩] sampleBasket.registry).2 }.compile 0 = sampleBasket.compile 0 ∧
      ∃ tree, { sampleBasket with options := { ignoreWhitespace := true } }.compile 0 =
        .ok (sampleBasketStencil, tree) ∧ tree.outline = sampleBasketTree.outline := by
  obtain ⟨registries, registrations, options⟩ := compile_depends_on_reached sampleBasket 0
  refine ⟨(registries _ ?_).1, registrations _ ?_, ?_⟩
  · intro capability consults
    cases eq_of_consults_sampleBasket consults
    rfl
  · intro call member consults
    cases List.mem_singleton.1 member
    cases eq_of_consults_sampleBasket consults
  · have blanks : ∃ tree, { sampleBasket with options := { ignoreWhitespace := true } }.compile 0 =
        .ok (sampleBasketStencil, tree) := ⟨_, rfl⟩
    obtain ⟨tree, again⟩ := blanks
    exact ⟨tree, again, (options _ _ _ _ _ compile_sampleBasket again).2⟩

end Scope

end SchemaMatch
