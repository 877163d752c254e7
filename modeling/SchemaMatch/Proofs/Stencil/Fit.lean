import SchemaMatch.Match
import SchemaMatch.Proofs.Compilation.Slots

/-!
# Regions that fit a stencil

Regions fit a stencil if they are laid out as its fields are: what the envelope covers is covered
by the fields in order, and below an envelope that takes no part nothing does. Fitting depends on
the slots of the stencil alone, and positions may be counted in any unit that keeps their order.
-/

namespace SchemaMatch

def Region.inUnit (unit : Nat → Nat) (region : Region) : Region :=
  ⟨unit region.start, unit region.stop⟩

namespace Stencil

/-- Of some envelopes exactly one takes part, and covers what the field does. If the field is
optional there may be none, and then the field covers nothing. -/
def Held (lookup : Nat → Option Region) (marker : String) (envelopes : List Nat)
    (start stop : Nat) : Prop :=
  envelopes.filterMap lookup = [⟨start, stop⟩] ∨
    (marker = "?" ∧ envelopes.filterMap lookup = [] ∧ start = stop)

mutual

/-- Regions fit a record. If its envelope takes part, the declared fields share out what it covers;
if it does not, no slot below it does. -/
def Fits (scope : Scope) (lookup : Nat → Option Region) : Stencil → Prop
  | mk schema _ _ slot fields =>
    match lookup slot with
    | none => ∀ label ∈ fieldLabels fields, lookup label.1 = none
    | some region => FieldsFit scope lookup
        ((scope.family.schema schema).fields.filter fun field => !field.matchesNothing) fields
        region.start region.stop

/-- Fields share out a stretch in order. Each takes up where the one before it ends, and the last
one ends where the stretch does; only a separator covers something without a region. -/
def FieldsFit (scope : Scope) (lookup : Nat → Option Region) :
    List Field → List FieldStencil → Nat → Nat → Prop
  | [], [], start, stop => start = stop
  | _ :: declared, .separator :: rest, start, stop =>
    ∃ middle, start ≤ middle ∧ FieldsFit scope lookup declared rest middle stop
  | _ :: declared, .scalar _ slot _ _ :: rest, start, stop =>
    ∃ middle, start ≤ middle ∧ lookup slot = some ⟨start, middle⟩ ∧
      FieldsFit scope lookup declared rest middle stop
  | _ :: declared, .position _ slot _ :: rest, start, stop =>
    lookup slot = some ⟨start, start⟩ ∧ FieldsFit scope lookup declared rest start stop
  | field :: declared, .nested _ slot _ _ child :: rest, start, stop =>
    ∃ middle, start ≤ middle ∧ lookup slot = some ⟨start, middle⟩ ∧
      Held lookup field.marker [child.slot] start middle ∧ Fits scope lookup child ∧
      FieldsFit scope lookup declared rest middle stop
  | field :: declared, .union _ slot _ _ _ variants :: rest, start, stop =>
    ∃ middle, start ≤ middle ∧ lookup slot = some ⟨start, middle⟩ ∧
      Held lookup field.marker (variants.map Stencil.slot) start middle ∧
      VariantsFit scope lookup variants ∧ FieldsFit scope lookup declared rest middle stop
  | _, _, _, _ => False

def VariantsFit (scope : Scope) (lookup : Nat → Option Region) : List Stencil → Prop
  | [] => True
  | variant :: rest => Fits scope lookup variant ∧ VariantsFit scope lookup rest

end

/-- Two ways to look up regions agree on the slots from one on up to another. -/
def Agree (first next : Nat) (lookup other : Nat → Option Region) : Prop :=
  ∀ slot, first ≤ slot → slot < next → lookup slot = other slot

theorem Agree.mono {first next start stop : Nat} {lookup other : Nat → Option Region}
    (agree : Agree first next lookup other) (begins : first ≤ start) (ends : stop ≤ next) :
    Agree start stop lookup other :=
  fun slot after before => agree slot (by omega) (by omega)

section Tiles

variable {first next : Nat}

theorem Tiles.le {stencil : Stencil} (tiles : stencil.Tiles first next) : first ≤ next := by
  have stops := (Tiles.labels stencil tiles).1
  omega

theorem FieldsTile.le {fields : List FieldStencil} (tiles : FieldsTile first next fields) :
    first ≤ next := by
  have stops := (FieldsTile.labels fields tiles).1
  omega

theorem VariantsTile.le {variants : List Stencil} (tiles : VariantsTile first next variants) :
    first ≤ next := by
  have stops := (VariantsTile.labels variants tiles).1
  omega

theorem Tiles.slot_eq {stencil : Stencil} (tiles : stencil.Tiles first next) :
    stencil.slot = first ∧ first < next := by
  cases stencil with
  | mk schema name typeName slot fields =>
    obtain ⟨same, inside⟩ := tiles
    exact ⟨same, inside.le⟩

theorem FieldsTile.bounds {fields : List FieldStencil} (tiles : FieldsTile first next fields)
    {label : Nat × String} (member : label ∈ fieldLabels fields) :
    first ≤ label.1 ∧ label.1 < next := by
  obtain ⟨stops, numbers⟩ := FieldsTile.labels fields tiles
  have listed : label.1 ∈ (fieldLabels fields).map Prod.fst := List.mem_map_of_mem member
  rw [numbers] at listed
  have bounds := List.mem_range'_1.1 listed
  omega

theorem VariantsTile.bounds : {first : Nat} → (variants : List Stencil) →
    VariantsTile first next variants → ∀ slot ∈ variants.map Stencil.slot,
    first ≤ slot ∧ slot < next
  | _, [], _ => nofun
  | _, variant :: rest, tiles => by
    obtain ⟨middle, here, there⟩ := tiles
    intro slot member
    have begins := here.slot_eq
    have ends := there.le
    rcases List.mem_cons.1 member with rfl | member
    · omega
    · have bounds := VariantsTile.bounds rest there slot member
      omega

end Tiles

section Congruence

variable {scope : Scope} {lookup other : Nat → Option Region}

theorem filterMap_congr {envelopes : List Nat}
    (same : ∀ slot ∈ envelopes, lookup slot = other slot) :
    envelopes.filterMap lookup = envelopes.filterMap other := by
  induction envelopes with
  | nil => rfl
  | cons slot rest ih =>
    rw [List.filterMap_cons, List.filterMap_cons, same slot List.mem_cons_self,
      ih fun envelope member => same envelope (List.mem_cons_of_mem _ member)]

theorem Held.congr {marker : String} {envelopes : List Nat} {start stop : Nat}
    (same : ∀ slot ∈ envelopes, lookup slot = other slot)
    (held : Held lookup marker envelopes start stop) :
    Held other marker envelopes start stop := by
  rwa [Held, ← filterMap_congr same]

mutual

/-- Fitting a record depends on its slots alone. -/
theorem Fits.congr : {first next : Nat} → (stencil : Stencil) → stencil.Tiles first next →
    Agree first next lookup other → stencil.Fits scope lookup → stencil.Fits scope other
  | first, next, mk schema _ _ slot fields, tiles, agree, fits => by
    have envelope := tiles.slot_eq
    obtain ⟨rfl, inside⟩ := tiles
    have same : lookup slot = other slot := agree slot (by omega) envelope.2
    have below : Agree (slot + 1) next lookup other := agree.mono (by omega) (by omega)
    simp only [Fits] at fits ⊢
    rw [← same]
    split at fits
    · intro label member
      have bounds := inside.bounds member
      rw [← below label.1 bounds.1 bounds.2]
      exact fits label member
    · exact FieldsFit.congr _ fields inside below fits

theorem FieldsFit.congr : {first next start stop : Nat} → (declared : List Field) →
    (fields : List FieldStencil) → FieldsTile first next fields → Agree first next lookup other →
    FieldsFit scope lookup declared fields start stop →
    FieldsFit scope other declared fields start stop
  | _, _, _, _, [], [], _, _, fit => fit
  | _, _, _, _, _ :: declared, .separator :: rest, tiles, agree, fit => by
    obtain ⟨middle, order, others⟩ := fit
    exact ⟨middle, order, FieldsFit.congr declared rest tiles agree others⟩
  | first, next, _, _, _ :: declared, .scalar _ slot _ _ :: rest, tiles, agree, fit => by
    obtain ⟨rfl, tiles⟩ := tiles
    have ends := tiles.le
    obtain ⟨middle, order, region, others⟩ := fit
    rw [agree slot (by omega) (by omega)] at region
    exact ⟨middle, order, region,
      FieldsFit.congr declared rest tiles (agree.mono (by omega) (by omega)) others⟩
  | first, next, _, _, _ :: declared, .position _ slot _ :: rest, tiles, agree, fit => by
    obtain ⟨rfl, tiles⟩ := tiles
    have ends := tiles.le
    obtain ⟨region, others⟩ := fit
    rw [agree slot (by omega) (by omega)] at region
    exact ⟨region, FieldsFit.congr declared rest tiles (agree.mono (by omega) (by omega)) others⟩
  | first, next, _, _, field :: declared, .nested _ slot _ _ child :: rest, tiles, agree, fit => by
    obtain ⟨rfl, between, inside, tiles⟩ := tiles
    have begins := inside.slot_eq
    have ends := tiles.le
    obtain ⟨middle, order, region, held, fits, others⟩ := fit
    have below : Agree (slot + 1) between lookup other := agree.mono (by omega) (by omega)
    rw [agree slot (by omega) (by omega)] at region
    refine ⟨middle, order, region, held.congr ?_, Fits.congr child inside below fits,
      FieldsFit.congr declared rest tiles (agree.mono (by omega) (by omega)) others⟩
    intro envelope member
    cases List.mem_singleton.1 member
    exact below child.slot (by omega) (by omega)
  | first, next, _, _, field :: declared, .union _ slot _ _ _ variants :: rest, tiles, agree,
      fit => by
    obtain ⟨rfl, between, inside, tiles⟩ := tiles
    have begins := inside.le
    have ends := tiles.le
    obtain ⟨middle, order, region, held, fits, others⟩ := fit
    have below : Agree (slot + 1) between lookup other := agree.mono (by omega) (by omega)
    rw [agree slot (by omega) (by omega)] at region
    refine ⟨middle, order, region, held.congr ?_, VariantsFit.congr variants inside below fits,
      FieldsFit.congr declared rest tiles (agree.mono (by omega) (by omega)) others⟩
    intro envelope member
    have bounds := VariantsTile.bounds variants inside envelope member
    exact below envelope bounds.1 bounds.2

theorem VariantsFit.congr : {first next : Nat} → (variants : List Stencil) →
    VariantsTile first next variants → Agree first next lookup other →
    VariantsFit scope lookup variants → VariantsFit scope other variants
  | _, _, [], _, _, _ => trivial
  | _, _, variant :: rest, tiles, agree, fit => by
    obtain ⟨middle, here, there⟩ := tiles
    have begins := here.le
    have ends := there.le
    exact ⟨Fits.congr variant here (agree.mono (by omega) (by omega)) fit.1,
      VariantsFit.congr rest there (agree.mono (by omega) (by omega)) fit.2⟩

end

theorem fits_of_absent {first next : Nat} {stencil : Stencil} (tiles : stencil.Tiles first next)
    (absent : ∀ slot, first ≤ slot → slot < next → lookup slot = none) :
    stencil.Fits scope lookup := by
  cases stencil with
  | mk schema name typeName slot fields =>
    have envelope := tiles.slot_eq
    obtain ⟨rfl, inside⟩ := tiles
    simp only [Fits, absent slot (by omega) envelope.2]
    intro label member
    have bounds := inside.bounds member
    exact absent label.1 (by omega) bounds.2

theorem variantsFit_of_absent : {first next : Nat} → (variants : List Stencil) →
    VariantsTile first next variants →
    (∀ slot, first ≤ slot → slot < next → lookup slot = none) →
    VariantsFit scope lookup variants
  | _, _, [], _, _ => trivial
  | _, _, variant :: rest, tiles, absent => by
    obtain ⟨middle, here, there⟩ := tiles
    have begins := here.le
    have ends := there.le
    exact ⟨fits_of_absent here fun slot after before => absent slot (by omega) (by omega),
      variantsFit_of_absent rest there fun slot after before => absent slot (by omega) (by omega)⟩

end Congruence

section Units

variable {scope : Scope} {lookup : Nat → Option Region} {unit : Nat → Nat}

/-- The regions that are looked up, with their ends counted in another unit. -/
def inUnit (unit : Nat → Nat) (lookup : Nat → Option Region) (slot : Nat) : Option Region :=
  (lookup slot).map (Region.inUnit unit)

theorem inUnit_of_eq {slot : Nat} {region : Region} (found : lookup slot = some region) :
    inUnit unit lookup slot = some (region.inUnit unit) := by
  rw [inUnit, found, Option.map_some]

theorem Held.inUnit {marker : String} {envelopes : List Nat} {start stop : Nat}
    (held : Held lookup marker envelopes start stop) :
    Held (inUnit unit lookup) marker envelopes (unit start) (unit stop) := by
  have regions : envelopes.filterMap (Stencil.inUnit unit lookup) =
      (envelopes.filterMap lookup).map (Region.inUnit unit) :=
    List.map_filterMap.symm
  rw [Held, regions]
  rcases held with one | ⟨optional, none, same⟩
  · rw [one]
    exact .inl rfl
  · rw [none, same]
    exact .inr ⟨optional, rfl, rfl⟩

mutual

theorem Fits.inUnit
    (ordered : ∀ {start stop : Nat}, start ≤ stop → unit start ≤ unit stop) :
    (stencil : Stencil) → stencil.Fits scope lookup →
    stencil.Fits scope (inUnit unit lookup)
  | mk schema _ _ slot fields, fits => by
    simp only [Fits] at fits
    cases found : lookup slot with
    | none =>
      simp only [found] at fits
      simp only [Fits, Stencil.inUnit, found, Option.map_none]
      intro label member
      rw [fits label member, Option.map_none]
    | some region =>
      simp only [found] at fits
      simp only [Fits, inUnit_of_eq found]
      exact FieldsFit.inUnit ordered _ fields fits

theorem FieldsFit.inUnit {start stop : Nat}
    (ordered : ∀ {start stop : Nat}, start ≤ stop → unit start ≤ unit stop) :
    (declared : List Field) →
    (fields : List FieldStencil) → FieldsFit scope lookup declared fields start stop →
    FieldsFit scope (inUnit unit lookup) declared fields (unit start) (unit stop)
  | [], [], fit => congrArg unit fit
  | _ :: declared, .separator :: rest, fit => by
    obtain ⟨middle, order, others⟩ := fit
    exact ⟨unit middle, ordered order, FieldsFit.inUnit ordered declared rest others⟩
  | _ :: declared, .scalar _ _ _ _ :: rest, fit => by
    obtain ⟨middle, order, region, others⟩ := fit
    exact ⟨unit middle, ordered order, inUnit_of_eq region,
      FieldsFit.inUnit ordered declared rest others⟩
  | _ :: declared, .position _ _ _ :: rest, fit =>
    ⟨inUnit_of_eq fit.1, FieldsFit.inUnit ordered declared rest fit.2⟩
  | _ :: declared, .nested _ _ _ _ child :: rest, fit => by
    obtain ⟨middle, order, region, held, fits, others⟩ := fit
    exact ⟨unit middle, ordered order, inUnit_of_eq region, held.inUnit,
      Fits.inUnit ordered child fits, FieldsFit.inUnit ordered declared rest others⟩
  | _ :: declared, .union _ _ _ _ _ variants :: rest, fit => by
    obtain ⟨middle, order, region, held, fits, others⟩ := fit
    exact ⟨unit middle, ordered order, inUnit_of_eq region, held.inUnit,
      VariantsFit.inUnit ordered variants fits, FieldsFit.inUnit ordered declared rest others⟩

theorem VariantsFit.inUnit
    (ordered : ∀ {start stop : Nat}, start ≤ stop → unit start ≤ unit stop) :
    (variants : List Stencil) → VariantsFit scope lookup variants →
    VariantsFit scope (inUnit unit lookup) variants
  | [], _ => trivial
  | variant :: rest, fit =>
    ⟨Fits.inUnit ordered variant fit.1, VariantsFit.inUnit ordered rest fit.2⟩

end

end Units

end Stencil

end SchemaMatch
