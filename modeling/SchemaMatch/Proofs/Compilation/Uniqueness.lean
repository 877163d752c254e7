import SchemaMatch.Proofs.Compilation.Inversion

/-!
# A layout is the only one

What is laid out from a slot on is determined by what it is laid out from. The options only have a
say in the texts of fragments: under other options the stencils, the slots and the shape of the trees
are the same. The main statement is `Laid.isOnly`.
-/

namespace SchemaMatch

namespace Expr

mutual

def mapFragments (change : String → String) : Expr → Expr
  | fragment text => fragment (change text)
  | concat items => concat (mapFragmentsAll change items)
  | capture slot name expr => capture slot name (mapFragments change expr)
  | optional expr => optional (mapFragments change expr)
  | alternation branches => alternation (mapFragmentsAll change branches)

def mapFragmentsAll (change : String → String) : List Expr → List Expr
  | [] => []
  | expr :: rest => mapFragments change expr :: mapFragmentsAll change rest

end

mutual

@[simp] theorem mapFragments_id : (expr : Expr) → expr.mapFragments id = expr
  | fragment text => rfl
  | concat items => by rw [mapFragments, mapFragmentsAll_id items]
  | capture slot name expr => by rw [mapFragments, mapFragments_id expr]
  | optional expr => by rw [mapFragments, mapFragments_id expr]
  | alternation branches => by rw [mapFragments, mapFragmentsAll_id branches]

@[simp] theorem mapFragmentsAll_id : (exprs : List Expr) → mapFragmentsAll id exprs = exprs
  | [] => rfl
  | expr :: rest => by rw [mapFragmentsAll, mapFragments_id expr, mapFragmentsAll_id rest]

end

theorem mapFragments_withCardinality (change : String → String) (cardinality : Cardinality)
    (expr : Expr) : (Compilation.withCardinality cardinality expr).mapFragments change =
      Compilation.withCardinality cardinality (expr.mapFragments change) := by
  cases cardinality <;> rfl

end Expr

namespace Compilation

open SchemaMatch.Expr (mapFragments mapFragmentsAll)

variable {scope : Scope} {options : Options} {change : String → String} {slot next : Nat}

/-- A part is the only one that is laid out from a slot on under other options, up to what is changed
in the texts of fragments. -/
def Part.IsOnly (scope : Scope) (change : String → String) (slot next : Nat) : Part → Prop
  | record id stencil expr => ∀ ⦃other tree last⦄, Laid scope slot (.record id other tree) last →
      last = next ∧ other = stencil ∧ tree.mapFragments change = expr.mapFragments change
  | fields declared stencils exprs => ∀ ⦃others trees last⦄,
      Laid scope slot (.fields declared others trees) last →
      last = next ∧ others = stencils ∧ mapFragmentsAll change trees = mapFragmentsAll change exprs
  | variants schemas stencils exprs => ∀ ⦃others trees last⦄,
      Laid scope slot (.variants schemas others trees) last →
      last = next ∧ others = stencils ∧ mapFragmentsAll change trees = mapFragmentsAll change exprs

/-- Whatever is laid out is the only layout, also under other options, as far as the normal forms of
a fragment are not told apart. -/
theorem Laid.isOnly
    (same : ∀ ⦃fragment text other⦄, Fragment.normalize scope.options fragment = .ok text →
      Fragment.normalize options fragment = .ok other → change other = change text)
    {part : Part} (laid : Laid scope slot part next) :
    part.IsOnly { scope with options } change slot next := by
  induction laid with
  | record fields ih =>
    intro other tree last laid
    cases laid with
    | record again =>
      obtain ⟨rfl, rfl, alike⟩ := ih again
      exact ⟨rfl, rfl, by simp only [mapFragments, alike]⟩
  | noFields =>
    intro others trees last laid
    cases laid
    exact ⟨rfl, rfl, rfl⟩
  | skipped skips rest ih =>
    intro others trees last laid
    exact ih (laid.of_skipped skips)
  | separator matched kind normal rest ih =>
    intro others trees last laid
    obtain ⟨text, stencils, exprs, normal', rfl, rfl, again⟩ := laid.of_separator matched kind
    obtain ⟨rfl, rfl, alike⟩ := ih again
    refine ⟨rfl, rfl, ?_⟩
    simp only [mapFragmentsAll, mapFragments, same normal normal', alike]
  | scalar matched kind normal rest ih =>
    intro others trees last laid
    obtain ⟨representation, text, stencils, exprs, type, normal', rfl, rfl, again⟩ :=
      laid.of_scalar matched kind
    cases type
    obtain ⟨rfl, rfl, alike⟩ := ih again
    refine ⟨rfl, rfl, ?_⟩
    simp only [mapFragmentsAll, mapFragments, same normal normal', alike]
  | position kind rest ih =>
    intro others trees last laid
    obtain ⟨stencils, exprs, rfl, rfl, again⟩ := laid.of_position kind
    obtain ⟨rfl, rfl, alike⟩ := ih again
    exact ⟨rfl, rfl, by simp only [mapFragmentsAll, alike]⟩
  | nested kind means fits inside rest held others =>
    intro others' trees last laid
    obtain ⟨cardinality, child, expr, middle, stencils, exprs, means', inner, rfl, rfl, again⟩ :=
      laid.of_nested kind
    cases means.symm.trans means'
    obtain ⟨rfl, rfl, within⟩ := held inner
    obtain ⟨rfl, rfl, alike⟩ := others again
    refine ⟨rfl, rfl, ?_⟩
    simp only [mapFragmentsAll, mapFragments, Expr.mapFragments_withCardinality, within, alike]
  | union kind means registered inside rest held others =>
    intro others' trees last laid
    obtain ⟨cardinality, entry, variants, branches, middle, stencils, exprs, means', found, inner,
      rfl, rfl, again⟩ := laid.of_union kind
    cases means.symm.trans means'
    cases registered.symm.trans found
    obtain ⟨rfl, rfl, within⟩ := held inner
    obtain ⟨rfl, rfl, alike⟩ := others again
    refine ⟨rfl, rfl, ?_⟩
    simp only [mapFragmentsAll, mapFragments, Expr.mapFragments_withCardinality, within, alike]
  | noVariants =>
    intro others trees last laid
    cases laid
    exact ⟨rfl, rfl, rfl⟩
  | variant first rest held others =>
    intro others' trees last laid
    cases laid with
    | variant one more =>
      obtain ⟨rfl, rfl, within⟩ := held one
      obtain ⟨rfl, rfl, alike⟩ := others more
      exact ⟨rfl, rfl, by simp only [mapFragmentsAll, within, alike]⟩

theorem Laid.unique {schema : SchemaId} {stencil other : Stencil} {expr tree : Expr} {last : Nat}
    (laid : Laid scope slot (.record schema stencil expr) next)
    (again : Laid scope slot (.record schema other tree) last) :
    last = next ∧ other = stencil ∧ tree = expr := by
  have only : (Part.record schema stencil expr).IsOnly scope id slot next :=
    laid.isOnly fun fragment text other normal normal' => by
      rw [normal] at normal'
      rw [Except.ok.inj normal']
  obtain ⟨ends, stencils, trees⟩ := only again
  rw [Expr.mapFragments_id, Expr.mapFragments_id] at trees
  exact ⟨ends, stencils, trees⟩

end Compilation

/-- A basket of an item and something that may be missing, which is an item again or a gap. -/
def sampleBasket : Scope where
  family := {
    schemas := [
      ⟨"Basket", "Basket", [⟨"first", .nested "" .direct 1, 0⟩, .separator ", ",
        ⟨"rest", .union "?" 0, 1⟩]⟩,
      ⟨"Item", "Item", [⟨"word", .scalar "a" (.storable .text), 0⟩]⟩,
      ⟨"Gap", "Gap", [⟨"here", .position, 0⟩]⟩]
    capabilities := ["Thing"] }
  registry := ⟨[⟨0, "Thing", [1, 2]⟩]⟩
  options := {}

def sampleBasketStencil : Stencil :=
  .mk 0 "Basket" "Basket" 0 [
    .nested "first" 1 0 .direct (.mk 1 "Item" "Item" 2 [.scalar "word" 3 0 .text]),
    .separator,
    .union "rest" 4 1 0 "Thing" [.mk 1 "Item" "Item" 5 [.scalar "word" 6 0 .text],
      .mk 2 "Gap" "Gap" 7 [.position "here" 8 0]]]

/-- The tree of `sampleBasket`. -/
def sampleBasketTree : Expr :=
  .capture 0 "Basket" (.concat [
    .capture 1 "first" (.capture 2 "Item" (.concat [.capture 3 "word" (.fragment "a")])),
    .fragment ", ",
    .capture 4 "rest" (.optional (.alternation [
      .capture 5 "Item" (.concat [.capture 6 "word" (.fragment "a")]),
      .capture 7 "Gap" (.concat [.capture 8 "here" .empty])]))])

theorem compile_sampleBasket :
    sampleBasket.compile 0 = .ok (sampleBasketStencil, sampleBasketTree) := rfl

end SchemaMatch
