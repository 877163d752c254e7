import SchemaMatch.Proofs.Stencil.Fit
import Mathlib.Data.List.Pairwise

/-!
# The records of a stencil

A stencil lays out a record and those inside it. Each of them has a stretch of slots for itself, and
two of them are apart or one inside the other. A stencil and its tree can be moved to other slots.
-/

namespace SchemaMatch

namespace Expr

mutual

/-- A tree with all slots increased. -/
def shift (offset : Nat) : Expr → Expr
  | fragment text => fragment text
  | concat items => concat (shiftAll offset items)
  | capture slot name expr => capture (slot + offset) name (shift offset expr)
  | optional expr => optional (shift offset expr)
  | alternation branches => alternation (shiftAll offset branches)

def shiftAll (offset : Nat) : List Expr → List Expr
  | [] => []
  | expr :: rest => shift offset expr :: shiftAll offset rest

end

theorem shift_withCardinality (offset : Nat) (cardinality : Cardinality) (expr : Expr) :
    (Compilation.withCardinality cardinality expr).shift offset =
      Compilation.withCardinality cardinality (expr.shift offset) := by
  cases cardinality <;> rfl

theorem eq_of_capture?_eq {expr node other : Expr} {label label' : Nat × String}
    (once : (expr.captures.map Prod.fst).Nodup) (member : node ∈ expr.nodes)
    (among : other ∈ expr.nodes) (captures : node.capture? = some label)
    (captures' : other.capture? = some label') (same : label.1 = label'.1) : node = other := by
  let Apart (node other : Expr) : Prop := ∀ label, node.capture? = some label →
    ∀ label', other.capture? = some label' → label.1 ≠ label'.1
  have apart : expr.nodes.Pairwise Apart := List.pairwise_filterMap.1 (List.pairwise_map.1 once)
  have either : Std.Symm Apart :=
    ⟨fun node other far label one label' two => (far label' two label one).symm⟩
  by_contra different
  exact apart.forall member among different _ captures _ captures' same

end Expr

namespace Stencil

mutual

/-- A stencil with all slots increased. -/
def shift (offset : Nat) : Stencil → Stencil
  | mk schema name typeName slot fields =>
    mk schema name typeName (slot + offset) (shiftFields offset fields)

def shiftFields (offset : Nat) : List FieldStencil → List FieldStencil
  | [] => []
  | field :: rest => shiftField offset field :: shiftFields offset rest

def shiftField (offset : Nat) : FieldStencil → FieldStencil
  | .separator => .separator
  | .scalar name slot dest representation => .scalar name (slot + offset) dest representation
  | .position name slot dest => .position name (slot + offset) dest
  | .nested name slot dest holder child => .nested name (slot + offset) dest holder (shift offset child)
  | .union name slot dest capability capabilityName variants =>
    .union name (slot + offset) dest capability capabilityName (shiftVariants offset variants)

def shiftVariants (offset : Nat) : List Stencil → List Stencil
  | [] => []
  | variant :: rest => shift offset variant :: shiftVariants offset rest

end

mutual

theorem shift_shift (offset more : Nat) : (stencil : Stencil) →
    (stencil.shift offset).shift more = stencil.shift (offset + more)
  | mk _ _ _ _ fields => by
    simp only [shift, shiftFields_shiftFields offset more fields, Nat.add_assoc]

theorem shiftFields_shiftFields (offset more : Nat) : (fields : List FieldStencil) →
    shiftFields more (shiftFields offset fields) = shiftFields (offset + more) fields
  | [] => rfl
  | field :: rest => by
    simp only [shiftFields, shiftField_shiftField offset more field,
      shiftFields_shiftFields offset more rest]

theorem shiftField_shiftField (offset more : Nat) : (field : FieldStencil) →
    shiftField more (shiftField offset field) = shiftField (offset + more) field
  | .separator => rfl
  | .scalar _ _ _ _ => by simp only [shiftField, Nat.add_assoc]
  | .position _ _ _ => by simp only [shiftField, Nat.add_assoc]
  | .nested _ _ _ _ child => by
    simp only [shiftField, shift_shift offset more child, Nat.add_assoc]
  | .union _ _ _ _ _ variants => by
    simp only [shiftField, shiftVariants_shiftVariants offset more variants, Nat.add_assoc]

theorem shiftVariants_shiftVariants (offset more : Nat) : (variants : List Stencil) →
    shiftVariants more (shiftVariants offset variants) = shiftVariants (offset + more) variants
  | [] => rfl
  | variant :: rest => by
    simp only [shiftVariants, shift_shift offset more variant,
      shiftVariants_shiftVariants offset more rest]

end

mutual

/-- All records that a stencil lays out, each before those inside it. -/
def records : Stencil → List Stencil
  | mk schema name typeName slot fields =>
    mk schema name typeName slot fields :: fieldsRecords fields

def fieldsRecords : List FieldStencil → List Stencil
  | [] => []
  | field :: rest => fieldRecords field ++ fieldsRecords rest

def fieldRecords : FieldStencil → List Stencil
  | .nested _ _ _ _ child => records child
  | .union _ _ _ _ _ variants => variantsRecords variants
  | _ => []

def variantsRecords : List Stencil → List Stencil
  | [] => []
  | variant :: rest => records variant ++ variantsRecords rest

end

theorem mem_records_self (stencil : Stencil) : stencil ∈ stencil.records := by
  cases stencil
  exact List.mem_cons_self

mutual

theorem mem_records_trans {part inner : Stencil} (inside : inner ∈ part.records) :
    (stencil : Stencil) → part ∈ stencil.records → inner ∈ stencil.records
  | mk _ _ _ _ fields, member => by
    rcases List.mem_cons.1 member with rfl | member
    · exact inside
    · exact List.mem_cons_of_mem _ (mem_fieldsRecords_trans inside fields member)

theorem mem_fieldsRecords_trans {part inner : Stencil} (inside : inner ∈ part.records) :
    (fields : List FieldStencil) → part ∈ fieldsRecords fields → inner ∈ fieldsRecords fields
  | [], member => by cases member
  | field :: rest, member => by
    rcases List.mem_append.1 member with member | member
    · exact List.mem_append_left _ (mem_fieldRecords_trans inside field member)
    · exact List.mem_append_right _ (mem_fieldsRecords_trans inside rest member)

theorem mem_fieldRecords_trans {part inner : Stencil} (inside : inner ∈ part.records) :
    (field : FieldStencil) → part ∈ fieldRecords field → inner ∈ fieldRecords field
  | .separator, member => by cases member
  | .scalar _ _ _ _, member => by cases member
  | .position _ _ _, member => by cases member
  | .nested _ _ _ _ child, member => mem_records_trans inside child member
  | .union _ _ _ _ _ variants, member => mem_variantsRecords_trans inside variants member

theorem mem_variantsRecords_trans {part inner : Stencil} (inside : inner ∈ part.records) :
    (variants : List Stencil) → part ∈ variantsRecords variants → inner ∈ variantsRecords variants
  | [], member => by cases member
  | variant :: rest, member => by
    rcases List.mem_append.1 member with member | member
    · exact List.mem_append_left _ (mem_records_trans inside variant member)
    · exact List.mem_append_right _ (mem_variantsRecords_trans inside rest member)

end

/-- A record comes before another, which is inside it or has all its slots after it. -/
def Precedes (stencil other : Stencil) : Prop :=
  stencil.slot < other.slot ∧
    (other ∈ stencil.records ∨ stencil.slot + stencil.slotCount ≤ other.slot)

/-- Some records have their slots in a stretch, each in one of its own. -/
structure Arranged (first next : Nat) (stencils : List Stencil) : Prop where
  within : ∀ stencil ∈ stencils, first ≤ stencil.slot ∧
    stencil.Tiles stencil.slot (stencil.slot + stencil.slotCount) ∧
    stencil.slot + stencil.slotCount ≤ next
  ordered : stencils.Pairwise Precedes

variable {first middle next : Nat}

theorem arranged_nil : Arranged first next [] := ⟨nofun, .nil⟩

theorem Arranged.mono {stencils : List Stencil} {start stop : Nat}
    (arranged : Arranged start stop stencils) (begins : first ≤ start) (ends : stop ≤ next) :
    Arranged first next stencils where
  within stencil member := by
    obtain ⟨after, tiles, before⟩ := arranged.within stencil member
    exact ⟨by omega, tiles, by omega⟩
  ordered := arranged.ordered

theorem Arranged.append {front back : List Stencil} (here : Arranged first middle front)
    (there : Arranged middle next back) (begins : first ≤ middle) (ends : middle ≤ next) :
    Arranged first next (front ++ back) where
  within stencil member := by
    rcases List.mem_append.1 member with member | member
    · exact (here.mono (Nat.le_refl _) ends).within stencil member
    · exact (there.mono begins (Nat.le_refl _)).within stencil member
  ordered := by
    refine List.pairwise_append.2 ⟨here.ordered, there.ordered, ?_⟩
    intro stencil member other among
    obtain ⟨_, tiles, before⟩ := here.within stencil member
    obtain ⟨after, _, _⟩ := there.within other among
    have own := tiles.slot_eq.2
    exact ⟨by omega, .inr (by omega)⟩

/-- A stencil has as many slots as the stretch that they tile. -/
theorem Tiles.slotCount {stencil : Stencil} (tiles : stencil.Tiles first next) :
    first + stencil.slotCount = next := by
  have stops := (Tiles.labels stencil tiles).1
  have listed := congrArg List.length (stencil.map_snd_slotsAt stencil.name)
  simp only [List.length_map] at listed
  rw [Stencil.slotCount, slots, listed]
  exact stops

mutual

theorem Tiles.arranged : {first next : Nat} → (stencil : Stencil) → stencil.Tiles first next →
    Arranged first next stencil.records
  | first, next, mk schema name typeName slot fields, tiles => by
    have count := tiles.slotCount
    have whole := tiles
    obtain ⟨rfl, inside⟩ := tiles
    have below := FieldsTile.arranged fields inside
    constructor
    · intro stencil member
      rcases List.mem_cons.1 member with rfl | member
      · rw [← count] at whole
        exact ⟨Nat.le_refl _, whole, Nat.le_of_eq count⟩
      · exact (below.mono (Nat.le_succ _) (Nat.le_refl _)).within stencil member
    · refine List.pairwise_cons.2 ⟨?_, below.ordered⟩
      intro other member
      exact ⟨(below.within other member).1, .inl (List.mem_cons_of_mem _ member)⟩

theorem FieldsTile.arranged : {first next : Nat} → (fields : List FieldStencil) →
    FieldsTile first next fields → Arranged first next (fieldsRecords fields)
  | _, _, [], _ => arranged_nil
  | _, _, .separator :: rest, tiles => FieldsTile.arranged rest tiles
  | _, _, .scalar _ _ _ _ :: rest, tiles =>
    (FieldsTile.arranged rest tiles.2).mono (Nat.le_succ _) (Nat.le_refl _)
  | _, _, .position _ _ _ :: rest, tiles =>
    (FieldsTile.arranged rest tiles.2).mono (Nat.le_succ _) (Nat.le_refl _)
  | _, _, .nested _ _ _ _ child :: rest, tiles => by
    obtain ⟨rfl, middle, inside, others⟩ := tiles
    have held := (Tiles.arranged child inside).mono (Nat.le_succ _) (Nat.le_refl _)
    have begins := inside.le
    exact held.append (FieldsTile.arranged rest others) (by omega) others.le
  | _, _, .union _ _ _ _ _ variants :: rest, tiles => by
    obtain ⟨rfl, middle, inside, others⟩ := tiles
    have held := (VariantsTile.arranged variants inside).mono (Nat.le_succ _) (Nat.le_refl _)
    have begins := inside.le
    exact held.append (FieldsTile.arranged rest others) (by omega) others.le

theorem VariantsTile.arranged : {first next : Nat} → (variants : List Stencil) →
    VariantsTile first next variants → Arranged first next (variantsRecords variants)
  | _, _, [], _ => arranged_nil
  | _, _, variant :: rest, tiles => by
    obtain ⟨middle, inside, others⟩ := tiles
    exact (Tiles.arranged variant inside).append (VariantsTile.arranged rest others) inside.le
      others.le

end

end Stencil

end SchemaMatch
