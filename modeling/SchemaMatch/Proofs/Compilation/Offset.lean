import SchemaMatch.Proofs.Compilation.Outcome
import SchemaMatch.Proofs.Compilation.Uniqueness
import SchemaMatch.Proofs.Stencil.Records

/-!
# Schemas inside a root

Where a schema occurs in a root it is laid out as it is alone, with its slots moved to where its
envelope is. The path on which it is reached makes no difference, because what is laid out is laid
out from any slot on. The main statement is `Scope.compile_relocates`.
-/

namespace SchemaMatch

namespace Compilation

open SchemaMatch.Expr (shiftAll)
open Stencil (shiftFields shiftVariants fieldsRecords variantsRecords)

variable {scope : Scope} {slot next : Nat} {part : Part}

/-- A part with all slots increased. -/
def Part.shift (offset : Nat) : Part → Part
  | record schema stencil expr => record schema (stencil.shift offset) (expr.shift offset)
  | fields declared stencils exprs =>
    fields declared (shiftFields offset stencils) (shiftAll offset exprs)
  | variants schemas stencils exprs =>
    variants schemas (shiftVariants offset stencils) (shiftAll offset exprs)

/-- What is laid out from one slot on is laid out in the same way from any later one on. -/
theorem Laid.shift (offset : Nat) (laid : Laid scope slot part next) :
    Laid scope (slot + offset) (part.shift offset) (next + offset) := by
  have after (slot : Nat) : slot + 1 + offset = slot + offset + 1 := Nat.add_right_comm slot 1 offset
  induction laid with
  | record fields ih =>
    rw [after] at ih
    exact .record ih
  | noFields => exact .noFields
  | skipped skips rest ih => exact .skipped skips ih
  | separator matched kind normal rest ih => exact .separator matched kind normal ih
  | scalar matched kind normal rest ih =>
    rw [after] at ih
    exact .scalar matched kind normal ih
  | position kind rest ih =>
    rw [after] at ih
    exact .position kind ih
  | nested kind means fits inside rest held others =>
    rw [after] at held
    simp only [Part.shift, shiftFields, Stencil.shiftField, shiftAll, Expr.shift,
      Expr.shift_withCardinality]
    exact .nested kind means fits held others
  | union kind means registered inside rest held others =>
    rw [after] at held
    simp only [Part.shift, shiftFields, Stencil.shiftField, shiftAll, Expr.shift,
      Expr.shift_withCardinality]
    exact .union kind means registered held others
  | noVariants => exact .noVariants
  | variant first rest held others => exact .variant held others

/-! ### Records inside a part -/

/-- The records that the stencils of a part lay out. -/
def Part.records : Part → List Stencil
  | record _ stencil _ => stencil.records
  | fields _ stencils _ => fieldsRecords stencils
  | variants _ stencils _ => variantsRecords stencils

/-- The nodes of the trees of a part. -/
def Part.nodes : Part → List Expr
  | record _ _ expr => expr.nodes
  | fields _ _ exprs => Expr.nodesAll exprs
  | variants _ _ exprs => Expr.nodesAll exprs

def IsLaidAmong (scope : Scope) (nodes : List Expr) (stencil : Stencil) : Prop :=
  ∃ expr ∈ nodes, ∃ next, Laid scope stencil.slot (.record stencil.schema stencil expr) next

theorem IsLaidAmong.mono {nodes more : List Expr} {stencil : Stencil}
    (laid : IsLaidAmong scope nodes stencil) (within : nodes ⊆ more) :
    IsLaidAmong scope more stencil := by
  obtain ⟨expr, member, laid⟩ := laid
  exact ⟨expr, within member, laid⟩

theorem nodes_subset_withCardinality (cardinality : Cardinality) (expr : Expr) :
    expr.nodes ⊆ (withCardinality cardinality expr).nodes := by
  cases cardinality with
  | required => exact List.Subset.refl _
  | optional => exact List.subset_cons_self _ _

/-- Every record of a part has been laid out, and its tree is among those of the part. -/
theorem Laid.records (laid : Laid scope slot part next) :
    ∀ stencil ∈ part.records, IsLaidAmong scope part.nodes stencil := by
  induction laid with
  | record fields ih =>
    intro stencil member
    rcases List.mem_cons.1 member with rfl | member
    · exact ⟨_, List.mem_cons_self, _, .record fields⟩
    · refine (ih stencil member).mono ?_
      intro node among
      exact List.mem_cons_of_mem _ (List.mem_cons_of_mem _ among)
  | noFields => exact nofun
  | skipped skips rest ih => exact ih
  | separator matched kind normal rest ih =>
    intro stencil member
    exact (ih stencil member).mono (List.subset_append_right _ _)
  | scalar matched kind normal rest ih =>
    intro stencil member
    exact (ih stencil member).mono (List.subset_append_right _ _)
  | position kind rest ih =>
    intro stencil member
    exact (ih stencil member).mono (List.subset_append_right _ _)
  | nested kind means fits inside rest held others =>
    intro stencil member
    rcases List.mem_append.1 member with member | member
    · refine (held stencil member).mono ?_
      intro node among
      exact List.mem_append_left _
        (List.mem_cons_of_mem _ (nodes_subset_withCardinality _ _ among))
    · exact (others stencil member).mono (List.subset_append_right _ _)
  | union kind means registered inside rest held others =>
    intro stencil member
    rcases List.mem_append.1 member with member | member
    · refine (held stencil member).mono ?_
      intro node among
      exact List.mem_append_left _ (List.mem_cons_of_mem _
        (nodes_subset_withCardinality _ (.alternation _) (List.mem_cons_of_mem _ among)))
    · exact (others stencil member).mono (List.subset_append_right _ _)
  | noVariants => exact nofun
  | variant first rest held others =>
    intro stencil member
    rcases List.mem_append.1 member with member | member
    · exact (held stencil member).mono (List.subset_append_left _ _)
    · exact (others stencil member).mono (List.subset_append_right _ _)

end Compilation

/-! ### The schemas that occur -/

/-- A field holds records of a schema. -/
def Scope.Refers (scope : Scope) (field : Field) (schema : SchemaId) : Prop :=
  match field.kind with
  | .nested _ _ held => held = schema
  | .union _ capability =>
    ∃ entry, scope.registry.lookup? capability = some entry ∧ schema ∈ entry.variants
  | _ => False

namespace Scope

variable {scope : Scope} {root id schema : SchemaId} {field : Field}

theorem Visits.refers (visits : scope.Visits root id)
    (member : field ∈ (scope.family.schema id).fields) (refers : scope.Refers field schema) :
    scope.Visits root schema := by
  cases kind : field.kind with
  | nested marker holder held =>
    simp only [Refers, kind] at refers
    exact .nested visits member (refers ▸ kind)
  | union marker capability =>
    simp only [Refers, kind] at refers
    obtain ⟨entry, registered, listed⟩ := refers
    exact .variant visits member kind registered listed
  | _ => simp only [Refers, kind] at refers

theorem Visits.trans (visits : scope.Visits root id) (further : scope.Visits id schema) :
    scope.Visits root schema := by
  induction further with
  | root => exact visits
  | nested _ member kind ih => exact .nested ih member kind
  | variant _ member kind registered listed ih => exact .variant ih member kind registered listed

theorem not_refers_of_matchesNothing (skips : field.matchesNothing = true) :
    ¬scope.Refers field schema := by
  cases kind : field.kind with
  | nested marker holder held => simp [Field.matchesNothing, kind] at skips
  | union marker capability => simp [Field.matchesNothing, kind] at skips
  | _ => simp [Refers, kind]

end Scope

namespace Compilation

open Stencil (fieldsRecords variantsRecords)

variable {scope : Scope} {slot next : Nat} {part : Part}

def Part.IsVisited (scope : Scope) : Part → Prop
  | record id stencil _ => ∀ inner ∈ stencil.records, scope.Visits id inner.schema
  | fields declared stencils _ => ∀ inner ∈ fieldsRecords stencils,
      ∃ field ∈ declared, ∃ schema, scope.Refers field schema ∧ scope.Visits schema inner.schema
  | variants schemas stencils _ => ∀ inner ∈ variantsRecords stencils,
      ∃ schema ∈ schemas, scope.Visits schema inner.schema

def Part.HoldsAll (scope : Scope) : Part → Prop
  | record id stencil _ => ∀ field ∈ (scope.family.schema id).fields, ∀ schema,
      scope.Refers field schema → ∃ inner ∈ stencil.records, inner.schema = schema
  | fields declared stencils _ => ∀ field ∈ declared, ∀ schema,
      scope.Refers field schema → ∃ inner ∈ fieldsRecords stencils, inner.schema = schema
  | variants schemas stencils _ => ∀ schema ∈ schemas,
      ∃ inner ∈ variantsRecords stencils, inner.schema = schema

theorem Laid.isVisited (laid : Laid scope slot part next) : part.IsVisited scope := by
  -- what is inside later fields is visited from one of these
  have later {field : Field} {declared : List Field} {inner : Stencil}
      (found : ∃ field ∈ declared, ∃ schema, scope.Refers field schema ∧
        scope.Visits schema inner.schema) :
      ∃ other ∈ field :: declared, ∃ schema, scope.Refers other schema ∧
        scope.Visits schema inner.schema := by
    obtain ⟨other, member, found⟩ := found
    exact ⟨other, List.mem_cons_of_mem _ member, found⟩
  induction laid with
  | record fields ih =>
    intro inner member
    rcases List.mem_cons.1 member with rfl | member
    · exact .root
    · obtain ⟨field, declared, schema, refers, visits⟩ := ih inner member
      exact (Scope.Visits.root.refers declared refers).trans visits
  | noFields => exact nofun
  | skipped skips rest ih => exact fun inner member => later (ih inner member)
  | separator matched kind normal rest ih => exact fun inner member => later (ih inner member)
  | scalar matched kind normal rest ih => exact fun inner member => later (ih inner member)
  | position kind rest ih => exact fun inner member => later (ih inner member)
  | nested kind means fits inside rest held others =>
    intro inner member
    rcases List.mem_append.1 member with member | member
    · exact ⟨_, List.mem_cons_self, _, by simp only [Scope.Refers, kind], held inner member⟩
    · exact later (others inner member)
  | union kind means registered inside rest held others =>
    intro inner member
    rcases List.mem_append.1 member with member | member
    · obtain ⟨schema, listed, visits⟩ := held inner member
      refine ⟨_, List.mem_cons_self, schema, ?_, visits⟩
      simp only [Scope.Refers, kind]
      exact ⟨_, registered, listed⟩
    · exact later (others inner member)
  | noVariants => exact nofun
  | variant first rest held others =>
    intro inner member
    rcases List.mem_append.1 member with member | member
    · exact ⟨_, List.mem_cons_self, held inner member⟩
    · obtain ⟨schema, listed, visits⟩ := others inner member
      exact ⟨schema, List.mem_cons_of_mem _ listed, visits⟩

theorem Laid.holdsAll (laid : Laid scope slot part next) : part.HoldsAll scope := by
  -- a field that refers to nothing adds nothing
  have plain {field : Field} {declared : List Field} {inside : List Stencil}
      (none : ∀ schema, ¬scope.Refers field schema)
      (rest : ∀ field ∈ declared, ∀ schema, scope.Refers field schema →
        ∃ inner ∈ inside, inner.schema = schema) :
      ∀ other ∈ field :: declared, ∀ schema, scope.Refers other schema →
        ∃ inner ∈ inside, inner.schema = schema := by
    intro other member schema refers
    rcases List.mem_cons.1 member with rfl | member
    · exact absurd refers (none schema)
    · exact rest other member schema refers
  induction laid with
  | record fields ih =>
    intro field member schema refers
    obtain ⟨inner, inside, same⟩ := ih field member schema refers
    exact ⟨inner, List.mem_cons_of_mem _ inside, same⟩
  | noFields => exact nofun
  | skipped skips rest ih =>
    exact plain (fun _ => Scope.not_refers_of_matchesNothing skips) ih
  | separator matched kind normal rest ih => exact plain (by simp [Scope.Refers, kind]) ih
  | scalar matched kind normal rest ih => exact plain (by simp [Scope.Refers, kind]) ih
  | position kind rest ih => exact plain (by simp [Scope.Refers, kind]) ih
  | @nested _ _ _ _ _ _ _ _ _ _ _ child _ kind means fits inside rest held others =>
    intro field member schema refers
    rcases List.mem_cons.1 member with rfl | member
    · simp only [Scope.Refers, kind] at refers
      subst refers
      refine ⟨child, List.mem_append_left _ child.mem_records_self, ?_⟩
      cases inside
      rfl
    · obtain ⟨inner, inside, same⟩ := others field member schema refers
      exact ⟨inner, List.mem_append_right _ inside, same⟩
  | union kind means registered inside rest held others =>
    intro field member schema refers
    rcases List.mem_cons.1 member with rfl | member
    · simp only [Scope.Refers, kind] at refers
      obtain ⟨entry, found, listed⟩ := refers
      cases registered.symm.trans found
      obtain ⟨inner, inside, same⟩ := held schema listed
      exact ⟨inner, List.mem_append_left _ inside, same⟩
    · obtain ⟨inner, inside, same⟩ := others field member schema refers
      exact ⟨inner, List.mem_append_right _ inside, same⟩
  | noVariants => exact nofun
  | @variant _ _ _ _ _ stencil _ _ _ first rest held others =>
    intro schema member
    rcases List.mem_cons.1 member with rfl | member
    · refine ⟨stencil, List.mem_append_left _ stencil.mem_records_self, ?_⟩
      cases first
      rfl
    · obtain ⟨inner, inside, same⟩ := others schema member
      exact ⟨inner, List.mem_append_right _ inside, same⟩

theorem Laid.visits_iff {root : SchemaId} {stencil : Stencil} {expr : Expr}
    (laid : Laid scope slot (.record root stencil expr) next) {id : SchemaId} :
    scope.Visits root id ↔ ∃ inner ∈ stencil.records, inner.schema = id := by
  have step {id schema : SchemaId} {field : Field}
      (found : ∃ inner ∈ stencil.records, inner.schema = id)
      (member : field ∈ (scope.family.schema id).fields) (refers : scope.Refers field schema) :
      ∃ inner ∈ stencil.records, inner.schema = schema := by
    obtain ⟨outer, inside, rfl⟩ := found
    obtain ⟨tree, _, last, layout⟩ := laid.records outer inside
    obtain ⟨inner, within, same⟩ := layout.holdsAll field member schema refers
    exact ⟨inner, Stencil.mem_records_trans within stencil inside, same⟩
  constructor
  · intro visits
    induction visits with
    | root =>
      refine ⟨stencil, stencil.mem_records_self, ?_⟩
      cases laid
      rfl
    | nested visits member kind ih => exact step ih member (by simp only [Scope.Refers, kind])
    | variant visits member kind registered listed ih =>
      refine step ih member ?_
      simp only [Scope.Refers, kind]
      exact ⟨_, registered, listed⟩
  · rintro ⟨inner, inside, rfl⟩
    exact laid.isVisited inner inside

end Compilation

namespace Scope

/-! ### Schemas alone -/

variable {scope : Scope} {root id : SchemaId}

theorem Arrives.trans {path further : List SchemaId} {other : SchemaId}
    (arrives : scope.Arrives root path id) (goes : scope.Arrives id further other) :
    scope.Arrives root (further ++ path) other := by
  induction goes with
  | root => exact arrives
  | nested _ member kind ih => exact .nested ih member kind
  | variant _ member kind registered listed ih => exact .variant ih member kind registered listed

theorem Visits.exists_arrives (visits : scope.Visits root id) :
    ∃ path, scope.Arrives root path id := by
  induction visits with
  | root => exact ⟨[], .root⟩
  | nested _ member kind ih =>
    obtain ⟨path, arrives⟩ := ih
    exact ⟨_, arrives.nested member kind⟩
  | variant _ member kind registered listed ih =>
    obtain ⟨path, arrives⟩ := ih
    exact ⟨_, arrives.variant member kind registered listed⟩

/-- A field that is valid inside of some schemas is valid inside of fewer. -/
theorem Accepts.of_append {path more : List SchemaId} {field : Field}
    (accepts : scope.Accepts (path ++ more) field) : scope.Accepts path field := by
  unfold Accepts at accepts ⊢
  cases kind : field.kind with
  | nested marker holder schema =>
    simp only [kind] at accepts ⊢
    obtain ⟨valid, present, fresh⟩ := accepts
    exact ⟨valid, present, fun member => fresh (List.mem_append_left _ member)⟩
  | union marker capability =>
    simp only [kind] at accepts ⊢
    obtain ⟨valid, entry, registered, fresh⟩ := accepts
    refine ⟨valid, entry, registered, ?_⟩
    intro variant listed member
    exact fresh variant listed (List.mem_append_left _ member)
  | position => trivial
  | _ =>
    simp only [kind] at accepts ⊢
    exact accepts

theorem exists_compile_of_visits {stencil : Stencil} {expr : Expr}
    (success : scope.compile root = .ok (stencil, expr)) (visits : scope.Visits root id) :
    ∃ alone tree, scope.compile id = .ok (alone, tree) := by
  have faultless := (finds_compile scope root).eq_none_iff.1 (by rw [success]; rfl)
  have valid := isFaultless_iff_accepts.1 faultless
  obtain ⟨path, arrives⟩ := visits.exists_arrives
  have alone : scope.IsFaultless (.schema [] id) := by
    apply isFaultless_iff_accepts.2
    intro further other goes field member
    exact (valid (further ++ path) other (arrives.trans goes) field member).of_append
  obtain ⟨part, compiled⟩ := failure?_eq_none_iff.1 ((finds_compile scope id).eq_none_iff.2 alone)
  exact ⟨part.1, part.2, compiled⟩

/-- A record inside a root is what its schema compiles to alone, moved to the slot of its envelope,
and so is the one tree that captures this slot. -/
structure Relocates (scope : Scope) (expr : Expr) (inner alone : Stencil) (tree : Expr) :
    Prop where
  compiles : scope.compile inner.schema = .ok (alone, tree)
  stencil : inner = alone.shift inner.slot
  tiles : inner.Tiles inner.slot (inner.slot + alone.slotCount)
  node : tree.shift inner.slot ∈ expr.nodes
  only : ∀ name held, Expr.capture inner.slot name held ∈ expr.nodes →
    Expr.capture inner.slot name held = tree.shift inner.slot

theorem relocates_of_mem_records {stencil inner : Stencil} {expr : Expr}
    (success : scope.compile root = .ok (stencil, expr)) (member : inner ∈ stencil.records) :
    ∃ alone tree, scope.Relocates expr inner alone tree := by
  obtain ⟨next, laid⟩ := laid_of_compile success
  obtain ⟨held, node, last, here⟩ := laid.records inner member
  have visits := laid.visits_iff.2 ⟨inner, member, rfl⟩
  obtain ⟨alone, tree, compiles⟩ := exists_compile_of_visits success visits
  obtain ⟨count, first⟩ := laid_of_compile compiles
  have moved := first.shift inner.slot
  rw [Nat.zero_add] at moved
  obtain ⟨ends, same, rfl⟩ := moved.unique here
  have slots : 0 + alone.slotCount = count := Stencil.Tiles.slotCount first.tiles
  have tiles : inner.Tiles inner.slot last := here.tiles
  refine ⟨alone, tree, compiles, same, ?_, node, ?_⟩
  · rwa [show inner.slot + alone.slotCount = last by omega]
  · intro name held among
    have once : (expr.captures.map Prod.fst).Nodup := by
      have captured : expr.captures = stencil.labels := laid.captures
      rw [captured, (Stencil.Tiles.labels stencil laid.tiles).2]
      exact List.nodup_range'
    cases first with
    | record fields =>
      exact Expr.eq_of_capture?_eq once among node rfl rfl (Nat.zero_add inner.slot).symm

/-- Every schema that is visited from a root compiles alone, and wherever it occurs in the root it
is laid out as it is alone, with all slots moved by the slot of its envelope. The records of a root
are of all the schemas that are visited and of no others. Of two of them one is inside the other, or
its slots are all before those of the other. Records of one schema differ by an offset only. -/
theorem compile_relocates {stencil : Stencil} {expr : Expr}
    (success : scope.compile root = .ok (stencil, expr)) :
    (∀ id, scope.Visits root id ↔ ∃ inner ∈ stencil.records, inner.schema = id) ∧
    (∀ inner ∈ stencil.records, ∃ alone tree, scope.Relocates expr inner alone tree) ∧
    stencil.records.Pairwise (fun inner other => inner.slot < other.slot ∧
      (other ∈ inner.records ∨ inner.slot + inner.slotCount ≤ other.slot)) ∧
    ∀ inner ∈ stencil.records, ∀ other ∈ stencil.records, inner.schema = other.schema →
      inner.slot ≤ other.slot → other = inner.shift (other.slot - inner.slot) := by
  obtain ⟨next, laid⟩ := laid_of_compile success
  have arranged : Stencil.Arranged 0 next stencil.records :=
    Stencil.Tiles.arranged stencil laid.tiles
  have moved : ∀ inner ∈ stencil.records, ∃ alone tree, scope.Relocates expr inner alone tree :=
    fun inner member => relocates_of_mem_records success member
  refine ⟨fun id => laid.visits_iff, moved, arranged.ordered, ?_⟩
  intro inner member other among same before
  obtain ⟨alone, tree, here⟩ := moved inner member
  obtain ⟨alone', tree', there⟩ := moved other among
  have one := here.compiles
  rw [same, there.compiles] at one
  cases one
  calc other = alone.shift (inner.slot + (other.slot - inner.slot)) := by
        rw [Nat.add_sub_of_le before]
        exact there.stencil
    _ = inner.shift (other.slot - inner.slot) := by
        rw [← Stencil.shift_shift, ← here.stencil]

/-- The item that a basket begins with, as it is laid out there. -/
def sampleBasketFirst : Stencil := .mk 1 "Item" "Item" 2 [.scalar "word" 3 0 .text]

/-- The item that a basket may end with, as it is laid out there. -/
def sampleBasketSecond : Stencil := .mk 1 "Item" "Item" 5 [.scalar "word" 6 0 .text]

/-- The two items of a basket are both what an item compiles to alone, and three slots apart. -/
theorem compile_relocates_sampleBasket :
    (∃ alone tree, sampleBasket.Relocates sampleBasketTree sampleBasketFirst alone tree) ∧
      (∃ alone tree, sampleBasket.Relocates sampleBasketTree sampleBasketSecond alone tree) ∧
      sampleBasketSecond = sampleBasketFirst.shift 3 := by
  obtain ⟨_, relocates, _, apart⟩ := compile_relocates compile_sampleBasket
  have first : sampleBasketFirst ∈ sampleBasketStencil.records :=
    List.mem_cons_of_mem _ List.mem_cons_self
  have second : sampleBasketSecond ∈ sampleBasketStencil.records :=
    List.mem_cons_of_mem _ (List.mem_cons_of_mem _ List.mem_cons_self)
  exact ⟨relocates _ first, relocates _ second, apart _ first _ second rfl (by decide)⟩

end Scope

end SchemaMatch
