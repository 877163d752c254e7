import SchemaMatch.Proofs.Expr.Ways
import SchemaMatch.Proofs.Regex.Passage
import SchemaMatch.Proofs.Stencil.Fit

/-!
# The ways of a compiled tree fit its stencil

A way through the tree of a part goes forward and captures nothing but the slots of the part; what
it captures fits the stencil of the part. The main statement is `Laid.fitsWays`. It is about all
ways, so it holds of any match, whichever way is preferred.
-/

namespace SchemaMatch

open Regex (Arrival Subject)

namespace Regex.Arrival

/-- What a slot covers on the way to an arrival, in characters. -/
def region? (arrival : Arrival) (slot : Nat) : Option Region :=
  (arrival.group? slot).map fun captured => ⟨captured.start, captured.stop⟩

variable {arrival : Arrival} {slot other start position : Nat}

@[simp] theorem region?_moveTo : (arrival.moveTo position).region? slot = arrival.region? slot :=
  rfl

@[simp] theorem position_capture : (arrival.capture slot start).position = arrival.position := rfl

theorem region?_capture_self :
    (arrival.capture slot start).region? slot = some ⟨start, arrival.position⟩ := by
  simp [region?, group?, capture]

theorem region?_capture_of_ne (differs : other ≠ slot) :
    (arrival.capture slot start).region? other = arrival.region? other := by
  have unlike : (slot == other) = false := beq_eq_false_iff_ne.2 differs.symm
  simp only [region?, group?, capture, List.find?_cons, unlike]

end Regex.Arrival

namespace Compilation

/-- A way goes forward and captures only slots from one on up to another. -/
structure Step (first next : Nat) (start way : Arrival) : Prop where
  forward : start.position ≤ way.position
  outside : ∀ slot, slot < first ∨ next ≤ slot → way.region? slot = start.region? slot

/-- Nothing has been captured yet in the slots from one on up to another. -/
def Fresh (first next : Nat) (start : Arrival) : Prop :=
  ∀ slot, first ≤ slot → slot < next → start.region? slot = none

variable {first middle next slot : Nat} {start inner way : Arrival}

theorem Step.refl (first next : Nat) (start : Arrival) : Step first next start start :=
  ⟨Nat.le_refl _, fun _ _ => rfl⟩

theorem Step.trans (one : Step first middle start inner) (two : Step middle next inner way)
    (begins : first ≤ middle) (ends : middle ≤ next) : Step first next start way := by
  refine ⟨Nat.le_trans one.forward two.forward, fun slot outside => ?_⟩
  rw [two.outside slot (by omega), one.outside slot (by omega)]

theorem Step.mono {begin stop : Nat} (step : Step begin stop start way) (begins : first ≤ begin)
    (ends : stop ≤ next) : Step first next start way :=
  ⟨step.forward, fun slot outside => step.outside slot (by omega)⟩

theorem Step.capture (step : Step (slot + 1) next start inner) (fewer : slot < next)
    (position : Nat) : Step slot next start (inner.capture slot position) := by
  refine ⟨step.forward, fun other outside => ?_⟩
  rw [Arrival.region?_capture_of_ne (by omega), step.outside other (by omega)]

theorem Fresh.mono {begin stop : Nat} (fresh : Fresh first next start) (begins : first ≤ begin)
    (ends : stop ≤ next) : Fresh begin stop start :=
  fun slot after before => fresh slot (by omega) (by omega)

/-- What is fresh stays so on a way that captures other slots. -/
theorem Fresh.step (fresh : Fresh middle next start) (step : Step first middle start inner) :
    Fresh middle next inner := by
  intro slot after before
  rw [step.outside slot (.inr after)]
  exact fresh slot after before

/-- What follows the capture of a field: the field has its region, and the slots below it have what
they had inside of it. -/
structure Holds (slot middle next : Nat) (start inner way : Arrival) : Prop where
  step : Step slot next start way
  region : way.region? slot = some ⟨start.position, inner.position⟩
  below : Stencil.Agree (slot + 1) middle inner.region? way.region?

theorem Holds.of_step (inside : Step (slot + 1) middle start inner) (more : slot < middle)
    (ends : middle ≤ next)
    (rest : Step middle next (inner.capture slot start.position) way) :
    Holds slot middle next start inner way := by
  refine ⟨(inside.capture more _).trans rest (by omega) ends, ?_, fun other after before => ?_⟩
  · rw [rest.outside slot (.inl more), Arrival.region?_capture_self]
  · rw [rest.outside other (.inl before), Arrival.region?_capture_of_ne (by omega)]

/-- A fragment goes forward and captures nothing. -/
theorem step_of_mem_ways_fragment {options : Options} {subject : Subject} {text : String}
    (member : way ∈ (Expr.fragment text).ways options subject start) : Step first next start way := by
  obtain ⟨arrival, among, rfl⟩ := List.mem_map.1 member
  have travelled := Regex.Term.arrivals_over subject _ _ arrival among
  exact ⟨travelled.le, fun _ _ => rfl⟩

theorem mem_ways_withCardinality {options : Options} {subject : Subject} {expr : Expr}
    {cardinality : Cardinality}
    (member : way ∈ (withCardinality cardinality expr).ways options subject start) :
    way ∈ expr.ways options subject start ∨ (cardinality = .optional ∧ way = start) := by
  cases cardinality with
  | required => exact .inl member
  | optional =>
    rcases List.mem_append.1 member with member | member
    · exact .inl member
    · exact .inr ⟨rfl, List.mem_singleton.1 member⟩

theorem marker_eq_of_optional {marker : String}
    (means : Cardinality.ofMarker? marker = some .optional) : marker = "?" := by
  simp only [Cardinality.ofMarker?] at means
  split at means
  · cases means
  · split at means
    · assumption
    · cases means

/-- The ways of the trees of a part step over its slots and fit its stencils. -/
def Part.FitsWays (scope : Scope) (subject : Subject) (first next : Nat) : Part → Prop
  | record _ stencil expr => ∀ start way, Fresh first next start →
      way ∈ expr.ways scope.options subject start →
      Step first next start way ∧
        way.region? stencil.slot = some ⟨start.position, way.position⟩ ∧
        stencil.Fits scope way.region?
  | fields declared stencils exprs => ∀ start way, Fresh first next start →
      way ∈ Expr.waysAll scope.options subject exprs start →
      Step first next start way ∧
        Stencil.FieldsFit scope way.region? (declared.filter fun field => !field.matchesNothing)
          stencils start.position way.position
  | variants _ stencils exprs => ∀ start way, Fresh first next start →
      way ∈ Expr.waysAny scope.options subject exprs start →
      Step first next start way ∧
        (stencils.map Stencil.slot).filterMap way.region? = [⟨start.position, way.position⟩] ∧
        Stencil.VariantsFit scope way.region? stencils

section Fields

variable {scope : Scope} {subject : Subject}

theorem holds_of_capture {declared : List Field} {stencils : List FieldStencil}
    {exprs : List Expr} {name : String} {sub : Expr} (more : slot < middle) (ends : middle ≤ next)
    (inside : ∀ inner ∈ sub.ways scope.options subject start, Step (slot + 1) middle start inner)
    (rest : (Part.fields declared stencils exprs).FitsWays scope subject middle next)
    (fresh : Fresh slot next start)
    (member : way ∈ Expr.waysAll scope.options subject (.capture slot name sub :: exprs) start) :
    ∃ inner ∈ sub.ways scope.options subject start, Holds slot middle next start inner way ∧
      Stencil.FieldsFit scope way.region? (declared.filter fun field => !field.matchesNothing)
        stencils inner.position way.position := by
  obtain ⟨captured, among, member⟩ := List.mem_flatMap.1 member
  obtain ⟨inner, here, rfl⟩ := List.mem_map.1 among
  have front := inside inner here
  have later := (fresh.mono (by omega) (Nat.le_refl _)).step (front.capture more start.position)
  obtain ⟨step, fit⟩ := rest _ way later member
  exact ⟨inner, here, .of_step front more ends step, fit⟩

theorem held_of_mem_ways (Fits : (Nat → Option Region) → Prop) {sub : Expr}
    {cardinality : Cardinality} {marker : String} {envelopes : List Nat}
    (means : Cardinality.ofMarker? marker = some cardinality)
    (fresh : Fresh first next start)
    (within : ∀ slot ∈ envelopes, first ≤ slot ∧ slot < next)
    (absent : Fits start.region?)
    (ways : ∀ way ∈ sub.ways scope.options subject start, Step first next start way ∧
      envelopes.filterMap way.region? = [⟨start.position, way.position⟩] ∧ Fits way.region?)
    (member : way ∈ (withCardinality cardinality sub).ways scope.options subject start) :
    Step first next start way ∧
      Stencil.Held way.region? marker envelopes start.position way.position ∧
      Fits way.region? := by
  rcases mem_ways_withCardinality member with member | ⟨optional, rfl⟩
  · obtain ⟨step, one, fits⟩ := ways way member
    exact ⟨step, .inl one, fits⟩
  · rw [optional] at means
    have none : envelopes.filterMap way.region? = [] :=
      List.filterMap_eq_nil_iff.2 fun slot member =>
        fresh slot (within slot member).1 (within slot member).2
    exact ⟨.refl _ _ _, .inr ⟨marker_eq_of_optional means, none, rfl⟩, absent⟩

/-- A field whose part may be absent, and the fields after it: what the part fits is still there at
the end of the way. -/
theorem held_of_capture (Fits : (Nat → Option Region) → Prop) {declared : List Field}
    {stencils : List FieldStencil} {exprs : List Expr} {name : String} {sub : Expr}
    {cardinality : Cardinality} {marker : String} {envelopes : List Nat}
    (means : Cardinality.ofMarker? marker = some cardinality) (more : slot < middle)
    (ends : middle ≤ next)
    (within : ∀ envelope ∈ envelopes, slot + 1 ≤ envelope ∧ envelope < middle)
    (absent : Fresh (slot + 1) middle start → Fits start.region?)
    (congr : ∀ {here there}, Stencil.Agree (slot + 1) middle here there → Fits here → Fits there)
    (ways : ∀ way, Fresh (slot + 1) middle start → way ∈ sub.ways scope.options subject start →
      Step (slot + 1) middle start way ∧
        envelopes.filterMap way.region? = [⟨start.position, way.position⟩] ∧ Fits way.region?)
    (rest : (Part.fields declared stencils exprs).FitsWays scope subject middle next)
    (fresh : Fresh slot next start)
    (member : way ∈ Expr.waysAll scope.options subject
      (.capture slot name (withCardinality cardinality sub) :: exprs) start) :
    Step slot next start way ∧ ∃ position, start.position ≤ position ∧
      way.region? slot = some ⟨start.position, position⟩ ∧
      Stencil.Held way.region? marker envelopes start.position position ∧ Fits way.region? ∧
      Stencil.FieldsFit scope way.region? (declared.filter fun field => !field.matchesNothing)
        stencils position way.position := by
  have below : Fresh (slot + 1) middle start := fresh.mono (by omega) ends
  have inside : ∀ inner ∈ (withCardinality cardinality sub).ways scope.options subject start,
      Step (slot + 1) middle start inner ∧
        Stencil.Held inner.region? marker envelopes start.position inner.position ∧
        Fits inner.region? :=
    fun inner => held_of_mem_ways Fits means below within (absent below) fun way =>
      ways way below
  obtain ⟨inner, among, holds, fit⟩ := holds_of_capture more ends
    (fun inner among => (inside inner among).1) rest fresh member
  obtain ⟨step, envelope, fits⟩ := inside inner among
  refine ⟨holds.step, inner.position, step.forward, holds.region, ?_, congr holds.below fits, fit⟩
  exact envelope.congr fun slot member =>
    holds.below slot (within slot member).1 (within slot member).2

end Fields

/-! ### One lemma for each way to lay out a part -/

namespace Part.FitsWays

variable {scope : Scope} {subject : Subject} {id : SchemaId} {field : Field}
variable {declared : List Field} {stencils : List FieldStencil} {exprs : List Expr}

theorem record {name typeName : String}
    (laid : Laid scope (slot + 1) (.fields (scope.family.schema id).fields stencils exprs) next)
    (fields : (Part.fields (scope.family.schema id).fields stencils exprs).FitsWays scope subject
      (slot + 1) next) :
    (Part.record id (.mk id name typeName slot stencils)
      (.capture slot name (.concat exprs))).FitsWays scope subject slot next := by
  intro start way fresh member
  obtain ⟨inner, among, rfl⟩ := List.mem_map.1 member
  have fewer := laid.le
  obtain ⟨step, fit⟩ := fields start inner (fresh.mono (by omega) (by omega)) among
  refine ⟨step.capture (by omega) _, Arrival.region?_capture_self, ?_⟩
  simp only [Stencil.Fits, Arrival.region?_capture_self]
  refine Stencil.FieldsFit.congr _ stencils laid.tiles (fun other after before => ?_) fit
  exact (Arrival.region?_capture_of_ne (by omega)).symm

theorem noFields : (Part.fields [] [] []).FitsWays scope subject slot slot := by
  intro start way fresh member
  cases List.mem_singleton.1 member
  exact ⟨.refl _ _ _, rfl⟩

theorem skipped (skips : field.matchesNothing = true)
    (rest : (Part.fields declared stencils exprs).FitsWays scope subject slot next) :
    (Part.fields (field :: declared) stencils exprs).FitsWays scope subject slot next := by
  intro start way fresh member
  simp only [List.filter_cons, skips, Bool.not_true, Bool.false_eq_true, if_false]
  exact rest start way fresh member

theorem separator {text : String} (matched : field.matchesNothing = false) (ends : slot ≤ next)
    (rest : (Part.fields declared stencils exprs).FitsWays scope subject slot next) :
    (Part.fields (field :: declared) (.separator :: stencils)
      (.fragment text :: exprs)).FitsWays scope subject slot next := by
  intro start way fresh member
  obtain ⟨inner, among, member⟩ := List.mem_flatMap.1 member
  have front : Step slot slot start inner := step_of_mem_ways_fragment among
  obtain ⟨step, fit⟩ := rest inner way (fresh.step front) member
  simp only [List.filter_cons, matched, Bool.not_false, if_true]
  exact ⟨front.trans step (Nat.le_refl _) ends, inner.position, front.forward, fit⟩

theorem scalar {name text : String} {dest : Nat} {representation : Representation}
    (matched : field.matchesNothing = false) (ends : slot + 1 ≤ next)
    (rest : (Part.fields declared stencils exprs).FitsWays scope subject (slot + 1) next) :
    (Part.fields (field :: declared) (.scalar name slot dest representation :: stencils)
      (.capture slot name (.fragment text) :: exprs)).FitsWays scope subject slot next := by
  intro start way fresh member
  obtain ⟨inner, among, holds, fit⟩ := holds_of_capture (Nat.lt_succ_self _) ends
    (fun inner => step_of_mem_ways_fragment) rest fresh member
  have inside : Step 0 0 start inner := step_of_mem_ways_fragment among
  simp only [List.filter_cons, matched, Bool.not_false, if_true]
  exact ⟨holds.step, inner.position, inside.forward, holds.region, fit⟩

theorem position {name : String} {dest : Nat} (matched : field.matchesNothing = false)
    (ends : slot + 1 ≤ next)
    (rest : (Part.fields declared stencils exprs).FitsWays scope subject (slot + 1) next) :
    (Part.fields (field :: declared) (.position name slot dest :: stencils)
      (.capture slot name .empty :: exprs)).FitsWays scope subject slot next := by
  intro start way fresh member
  obtain ⟨inner, among, holds, fit⟩ := holds_of_capture (Nat.lt_succ_self _) ends
    (fun inner among => List.mem_singleton.1 among ▸ .refl _ _ _) rest fresh member
  cases List.mem_singleton.1 among
  simp only [List.filter_cons, matched, Bool.not_false, if_true]
  exact ⟨holds.step, holds.region, fit⟩

theorem nested {name : String} {dest : Nat} {holder : Holder} {schema : SchemaId}
    {cardinality : Cardinality} {child : Stencil} {expr : Expr}
    (matched : field.matchesNothing = false)
    (means : Cardinality.ofMarker? field.marker = some cardinality)
    (laid : Laid scope (slot + 1) (.record schema child expr) middle) (ends : middle ≤ next)
    (inside : (Part.record schema child expr).FitsWays scope subject (slot + 1) middle)
    (rest : (Part.fields declared stencils exprs).FitsWays scope subject middle next) :
    (Part.fields (field :: declared) (.nested name slot dest holder child :: stencils)
      (.capture slot name (withCardinality cardinality expr) :: exprs)).FitsWays scope subject
        slot next := by
  intro start way fresh member
  have begins : child.slot = slot + 1 ∧ slot + 1 < middle := Stencil.Tiles.slot_eq laid.tiles
  simp only [List.filter_cons, matched, Bool.not_false, if_true, Stencil.FieldsFit]
  refine held_of_capture (Stencil.Fits scope · child) means (by omega) ends ?_
    (Stencil.fits_of_absent laid.tiles) (Stencil.Fits.congr child laid.tiles) ?_ rest fresh member
  · intro envelope member
    cases List.mem_singleton.1 member
    omega
  · intro way below among
    obtain ⟨step, region, fits⟩ := inside start way below among
    refine ⟨step, ?_, fits⟩
    rw [List.filterMap_cons, region]
    rfl

theorem union {name capabilityName : String} {dest : Nat} {capability : CapabilityId}
    {cardinality : Cardinality} {schemas : List SchemaId} {variants : List Stencil}
    {branches : List Expr} (matched : field.matchesNothing = false)
    (means : Cardinality.ofMarker? field.marker = some cardinality)
    (laid : Laid scope (slot + 1) (.variants schemas variants branches) middle)
    (ends : middle ≤ next)
    (inside : (Part.variants schemas variants branches).FitsWays scope subject (slot + 1) middle)
    (rest : (Part.fields declared stencils exprs).FitsWays scope subject middle next) :
    (Part.fields (field :: declared)
      (.union name slot dest capability capabilityName variants :: stencils)
      (.capture slot name (withCardinality cardinality (.alternation branches)) ::
        exprs)).FitsWays scope subject slot next := by
  intro start way fresh member
  have begins := laid.le
  simp only [List.filter_cons, matched, Bool.not_false, if_true, Stencil.FieldsFit]
  refine held_of_capture (Stencil.VariantsFit scope · variants) means (by omega) ends
    (Stencil.VariantsTile.bounds variants laid.tiles)
    (Stencil.variantsFit_of_absent variants laid.tiles)
    (Stencil.VariantsFit.congr variants laid.tiles) ?_ rest fresh member
  exact fun way below among => inside start way below among

theorem noVariants : (Part.variants [] [] []).FitsWays scope subject slot slot := by
  intro start way fresh member
  cases member

theorem variant {schemas : List SchemaId} {stencil : Stencil} {others : List Stencil} {expr : Expr}
    (laid : Laid scope slot (.record id stencil expr) middle)
    (later : Laid scope middle (.variants schemas others exprs) next)
    (first : (Part.record id stencil expr).FitsWays scope subject slot middle)
    (rest : (Part.variants schemas others exprs).FitsWays scope subject middle next) :
    (Part.variants (id :: schemas) (stencil :: others) (expr :: exprs)).FitsWays scope subject
      slot next := by
  intro start way fresh member
  have begins : stencil.slot = slot ∧ slot < middle := Stencil.Tiles.slot_eq laid.tiles
  have ends := later.le
  have front : Fresh slot middle start := fresh.mono (Nat.le_refl _) ends
  have back : Fresh middle next start := fresh.mono (by omega) (Nat.le_refl _)
  -- one variant matches, and the slots of all others are left as fresh as they were
  rcases List.mem_append.1 member with member | member
  · obtain ⟨step, region, fits⟩ := first start way front member
    have absent : Fresh middle next way := back.step step
    have none : (others.map Stencil.slot).filterMap way.region? = [] :=
      List.filterMap_eq_nil_iff.2 fun slot member => by
        have bounds := Stencil.VariantsTile.bounds others later.tiles slot member
        exact absent slot bounds.1 bounds.2
    refine ⟨step.mono (Nat.le_refl _) ends, ?_, fits,
      Stencil.variantsFit_of_absent others later.tiles absent⟩
    rw [List.map_cons, List.filterMap_cons, region, none]
  · obtain ⟨step, regions, fits⟩ := rest start way back member
    have absent : ∀ other, slot ≤ other → other < middle → way.region? other = none := by
      intro other after before
      rw [step.outside other (.inl before)]
      exact front other after before
    refine ⟨step.mono (by omega) (Nat.le_refl _), ?_,
      Stencil.fits_of_absent laid.tiles absent, fits⟩
    rw [List.map_cons, List.filterMap_cons, absent stencil.slot (by omega) (by omega), regions]

end Part.FitsWays

/-- Every way through what is laid out steps over its slots and fits its stencils. -/
theorem Laid.fitsWays {scope : Scope} {part : Part} (subject : Subject)
    (laid : Laid scope slot part next) : part.FitsWays scope subject slot next := by
  induction laid with
  | record fields ih => exact .record fields ih
  | noFields => exact .noFields
  | skipped skips rest ih => exact .skipped skips ih
  | separator matched kind normal rest ih => exact .separator matched rest.le ih
  | scalar matched kind normal rest ih => exact .scalar matched rest.le ih
  | position kind rest ih => exact .position (by rw [Field.matchesNothing, kind]) rest.le ih
  | nested kind means fits inside rest held others =>
    exact .nested (by rw [Field.matchesNothing, kind]) (by rwa [Field.marker, kind]) inside rest.le
      held others
  | union kind means registered inside rest held others =>
    exact .union (by rw [Field.matchesNothing, kind]) (by rwa [Field.marker, kind]) inside rest.le
      held others
  | noVariants => exact .noVariants
  | variant first rest held others => exact .variant first rest held others

end Compilation

end SchemaMatch
