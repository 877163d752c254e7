import SchemaMatch.Proofs.Compilation.Fit
import SchemaMatch.Record.Basic
import Mathlib.Data.List.Forall2

/-!
# Twins

Two compiled pieces are twins if they differ only in their slots, their names and some fields that
one of them captures and the other does not: texts that it takes as separators, and positions that
it does not have. The slots that they have in common are paired. Twins match alike: their ways end
at the same positions, one by one, and give paired slots the same regions. The main statement is
`Twins.matchAlike`.
-/

namespace SchemaMatch

open Regex

namespace Compilation

/-- What is compiled at one time, without what it is compiled from. -/
inductive Piece
  | record (stencil : Stencil) (expr : Expr)
  /-- Fields of a record of a schema. -/
  | fields (owner : SchemaId) (stencils : List FieldStencil) (exprs : List Expr)
  | variants (stencils : List Stencil) (exprs : List Expr)

/-- Two pieces are twins. The places that both write to are shared; a captured field that only one
of them has writes to a place that is not, and its slot has no pair. -/
inductive Twins (paired : Nat → Nat → Prop) (shared : SchemaId → Place → Bool) :
    Piece → Piece → Prop
  | record {id : SchemaId} {name name' typeName typeName' : String} {slot slot' : Nat}
      {stencils stencils' : List FieldStencil} {exprs exprs' : List Expr}
      (pair : paired slot slot')
      (fields : Twins paired shared (.fields id stencils exprs) (.fields id stencils' exprs')) :
      Twins paired shared
        (.record (.mk id name typeName slot stencils) (.capture slot name (.concat exprs)))
        (.record (.mk id name' typeName' slot' stencils') (.capture slot' name' (.concat exprs')))
  | noFields {id : SchemaId} : Twins paired shared (.fields id [] []) (.fields id [] [])
  | separator {id : SchemaId} {text : String} {stencils stencils' : List FieldStencil}
      {exprs exprs' : List Expr}
      (rest : Twins paired shared (.fields id stencils exprs) (.fields id stencils' exprs')) :
      Twins paired shared (.fields id (.separator :: stencils) (.fragment text :: exprs))
        (.fields id (.separator :: stencils') (.fragment text :: exprs'))
  | scalar {id : SchemaId} {name text : String} {slot slot' dest : Nat}
      {representation : Representation} {stencils stencils' : List FieldStencil}
      {exprs exprs' : List Expr}
      (pair : paired slot slot')
      (rest : Twins paired shared (.fields id stencils exprs) (.fields id stencils' exprs')) :
      Twins paired shared
        (.fields id (.scalar name slot dest representation :: stencils)
          (.capture slot name (.fragment text) :: exprs))
        (.fields id (.scalar name slot' dest representation :: stencils')
          (.capture slot' name (.fragment text) :: exprs'))
  | position {id : SchemaId} {name : String} {slot slot' dest : Nat}
      {stencils stencils' : List FieldStencil} {exprs exprs' : List Expr}
      (pair : paired slot slot')
      (rest : Twins paired shared (.fields id stencils exprs) (.fields id stencils' exprs')) :
      Twins paired shared
        (.fields id (.position name slot dest :: stencils) (.capture slot name .empty :: exprs))
        (.fields id (.position name slot' dest :: stencils') (.capture slot' name .empty :: exprs'))
  | nested {id : SchemaId} {name : String} {slot slot' dest : Nat} {holder : Holder}
      {cardinality : Cardinality} {child child' : Stencil} {expr expr' : Expr}
      {stencils stencils' : List FieldStencil} {exprs exprs' : List Expr}
      (pair : paired slot slot')
      (common : shared id ⟨dest, .nested holder child.schema⟩ = true)
      (inside : Twins paired shared (.record child expr) (.record child' expr'))
      (rest : Twins paired shared (.fields id stencils exprs) (.fields id stencils' exprs')) :
      Twins paired shared
        (.fields id (.nested name slot dest holder child :: stencils)
          (.capture slot name (withCardinality cardinality expr) :: exprs))
        (.fields id (.nested name slot' dest holder child' :: stencils')
          (.capture slot' name (withCardinality cardinality expr') :: exprs'))
  | union {id : SchemaId} {name : String} {slot slot' dest : Nat} {capability : CapabilityId}
      {capabilityName capabilityName' : String} {cardinality : Cardinality}
      {variants variants' : List Stencil} {branches branches' : List Expr}
      {stencils stencils' : List FieldStencil} {exprs exprs' : List Expr}
      (pair : paired slot slot')
      (inside : Twins paired shared (.variants variants branches) (.variants variants' branches'))
      (rest : Twins paired shared (.fields id stencils exprs) (.fields id stencils' exprs')) :
      Twins paired shared
        (.fields id (.union name slot dest capability capabilityName variants :: stencils)
          (.capture slot name (withCardinality cardinality (.alternation branches)) :: exprs))
        (.fields id (.union name slot' dest capability capabilityName' variants' :: stencils')
          (.capture slot' name (withCardinality cardinality (.alternation branches')) :: exprs'))
  | released {id : SchemaId} {name text : String} {slot dest : Nat}
      {representation : Representation} {stencils stencils' : List FieldStencil}
      {exprs exprs' : List Expr}
      (alone : ∀ slot', ¬paired slot slot')
      (hidden : shared id ⟨dest, .scalar representation⟩ = false)
      (rest : Twins paired shared (.fields id stencils exprs) (.fields id stencils' exprs')) :
      Twins paired shared
        (.fields id (.scalar name slot dest representation :: stencils)
          (.capture slot name (.fragment text) :: exprs))
        (.fields id (.separator :: stencils') (.fragment text :: exprs'))
  | inserted {id : SchemaId} {name : String} {slot' dest : Nat}
      {stencils stencils' : List FieldStencil} {exprs exprs' : List Expr}
      (alone : ∀ slot, ¬paired slot slot')
      (hidden : shared id ⟨dest, .position⟩ = false)
      (rest : Twins paired shared (.fields id stencils exprs) (.fields id stencils' exprs')) :
      Twins paired shared (.fields id stencils exprs)
        (.fields id (.position name slot' dest :: stencils')
          (.capture slot' name .empty :: exprs'))
  | noVariants : Twins paired shared (.variants [] []) (.variants [] [])
  | variant {stencil stencil' : Stencil} {expr expr' : Expr} {stencils stencils' : List Stencil}
      {exprs exprs' : List Expr}
      (first : Twins paired shared (.record stencil expr) (.record stencil' expr'))
      (rest : Twins paired shared (.variants stencils exprs) (.variants stencils' exprs')) :
      Twins paired shared (.variants (stencil :: stencils) (expr :: exprs))
        (.variants (stencil' :: stencils') (expr' :: exprs'))

theorem Twins.of_record {paired : Nat → Nat → Prop} {shared : SchemaId → Place → Bool}
    {stencil stencil' : Stencil} {expr expr' : Expr}
    (twins : Twins paired shared (.record stencil expr) (.record stencil' expr')) :
    paired stencil.slot stencil'.slot ∧ stencil'.schema = stencil.schema := by
  cases twins with
  | record pair fields => exact ⟨pair, rfl⟩

/-! ### Fragments -/

end Compilation

namespace Expr

def fragment? : Expr → Option String
  | fragment text => some text
  | _ => none

def fragments (expr : Expr) : List String := expr.nodes.filterMap fragment?

def fragmentsAll (exprs : List Expr) : List String := (nodesAll exprs).filterMap fragment?

theorem mem_fragments {expr : Expr} {text : String} :
    text ∈ expr.fragments ↔ .fragment text ∈ expr.nodes := by
  rw [fragments, List.mem_filterMap]
  constructor
  · rintro ⟨node, member, same⟩
    cases node with
    | fragment other => exact Option.some.inj same ▸ member
    | _ => cases same
  · exact fun member => ⟨_, member, rfl⟩

@[simp] theorem fragmentsAll_nil : fragmentsAll [] = [] := rfl

@[simp] theorem fragmentsAll_cons (expr : Expr) (rest : List Expr) :
    fragmentsAll (expr :: rest) = expr.fragments ++ fragmentsAll rest :=
  List.filterMap_append

@[simp] theorem fragments_fragment (text : String) : (fragment text).fragments = [text] := rfl

@[simp] theorem fragments_concat (items : List Expr) :
    (concat items).fragments = fragmentsAll items := rfl

@[simp] theorem fragments_empty : empty.fragments = [] := rfl

@[simp] theorem fragments_capture (slot : Nat) (name : String) (expr : Expr) :
    (capture slot name expr).fragments = expr.fragments := rfl

@[simp] theorem fragments_alternation (branches : List Expr) :
    (alternation branches).fragments = fragmentsAll branches := rfl

@[simp] theorem fragments_withCardinality (cardinality : Cardinality) (expr : Expr) :
    (Compilation.withCardinality cardinality expr).fragments = expr.fragments := by
  cases cardinality <;> rfl

end Expr

namespace Compilation

def Piece.fragments : Piece → List String
  | record _ expr => expr.fragments
  | fields _ _ exprs => Expr.fragmentsAll exprs
  | variants _ exprs => Expr.fragmentsAll exprs

theorem Twins.fragments {paired : Nat → Nat → Prop} {shared : SchemaId → Place → Bool}
    {piece piece' : Piece} (twins : Twins paired shared piece piece') :
    piece'.fragments = piece.fragments := by
  induction twins with
  | noFields => rfl
  | noVariants => rfl
  | _ => simp_all [Piece.fragments]

/-! ### Matching -/

/-- A relation pairs each slot with one slot at most. -/
structure IsPairing (paired : Nat → Nat → Prop) : Prop where
  right : ∀ ⦃slot slot' other⦄, paired slot slot' → paired slot other → other = slot'
  left : ∀ ⦃slot slot' other⦄, paired slot slot' → paired other slot' → other = slot

/-- Two arrivals are at the same position and have the same regions for paired slots. -/
structure Alike (paired : Nat → Nat → Prop) (arrival arrival' : Arrival) : Prop where
  position : arrival'.position = arrival.position
  region : ∀ ⦃slot slot'⦄, paired slot slot' → arrival'.region? slot' = arrival.region? slot

section Alike

variable {paired : Nat → Nat → Prop} {arrival arrival' start start' : Arrival} {slot slot' : Nat}

theorem Alike.initial (position : Nat) : Alike paired (.initial position) (.initial position) :=
  ⟨rfl, fun _ _ _ => rfl⟩

theorem Alike.moveTo (alike : Alike paired start start') (position : Nat) :
    Alike paired (start.moveTo position) (start'.moveTo position) :=
  ⟨rfl, alike.region⟩

/-- Paired slots capture alike. -/
theorem Alike.capture (pairing : IsPairing paired) (pair : paired slot slot')
    (begins : start'.position = start.position) (alike : Alike paired arrival arrival') :
    Alike paired (arrival.capture slot start.position)
      (arrival'.capture slot' start'.position) := by
  refine ⟨alike.position, fun other other' also => ?_⟩
  by_cases same : other = slot
  · subst same
    rw [pairing.right pair also, Arrival.region?_capture_self, Arrival.region?_capture_self, begins,
      alike.position]
  · have differs : other' ≠ slot' := fun equal => same (pairing.left pair (equal ▸ also))
    rw [Arrival.region?_capture_of_ne differs, Arrival.region?_capture_of_ne same,
      alike.region also]

theorem Alike.capture_left (alone : ∀ slot', ¬paired slot slot') (begin : Nat)
    (alike : Alike paired arrival arrival') :
    Alike paired (arrival.capture slot begin) arrival' := by
  refine ⟨alike.position, fun other other' pair => ?_⟩
  have differs : other ≠ slot := fun equal => alone other' (equal ▸ pair)
  rw [Arrival.region?_capture_of_ne differs, alike.region pair]

theorem Alike.capture_right (alone : ∀ slot, ¬paired slot slot') (begin : Nat)
    (alike : Alike paired arrival arrival') :
    Alike paired arrival (arrival'.capture slot' begin) := by
  refine ⟨alike.position, fun other other' pair => ?_⟩
  have differs : other' ≠ slot' := fun equal => alone other (equal ▸ pair)
  rw [Arrival.region?_capture_of_ne differs, alike.region pair]

end Alike

/-- From arrivals that are alike, two pieces have ways that are alike, one by one. -/
def Piece.MatchAlike (paired : Nat → Nat → Prop) (options : Options) (subject : Subject) :
    Piece → Piece → Prop
  | record _ expr, record _ expr' => ∀ ⦃start start'⦄, Alike paired start start' →
      List.Forall₂ (Alike paired) (expr.ways options subject start)
        (expr'.ways options subject start')
  | fields _ _ exprs, fields _ _ exprs' => ∀ ⦃start start'⦄, Alike paired start start' →
      List.Forall₂ (Alike paired) (Expr.waysAll options subject exprs start)
        (Expr.waysAll options subject exprs' start')
  | variants _ exprs, variants _ exprs' => ∀ ⦃start start'⦄, Alike paired start start' →
      List.Forall₂ (Alike paired) (Expr.waysAny options subject exprs start)
        (Expr.waysAny options subject exprs' start')
  | _, _ => False

section Ways

variable {paired : Nat → Nat → Prop} {options : Options} {subject : Subject}
variable {start start' : Arrival} {slot slot' : Nat} {name name' : String} {expr expr' : Expr}

theorem alike_ways_fragment (text : String) (alike : Alike paired start start') :
    List.Forall₂ (Alike paired) ((Expr.fragment text).ways options subject start)
      ((Expr.fragment text).ways options subject start') := by
  rw [Expr.ways, Expr.ways, alike.position, List.forall₂_map_left_iff, List.forall₂_map_right_iff]
  exact List.forall₂_same.2 fun arrival _ => alike.moveTo arrival.position

theorem alike_ways_capture (pairing : IsPairing paired) (pair : paired slot slot')
    (alike : Alike paired start start')
    (inside : List.Forall₂ (Alike paired) (expr.ways options subject start)
      (expr'.ways options subject start')) :
    List.Forall₂ (Alike paired) ((Expr.capture slot name expr).ways options subject start)
      ((Expr.capture slot' name' expr').ways options subject start') := by
  rw [Expr.ways, Expr.ways, List.forall₂_map_left_iff, List.forall₂_map_right_iff]
  exact inside.imp fun _ _ => Alike.capture pairing pair alike.position

theorem alike_ways_released {ways' : List Arrival} (alone : ∀ slot', ¬paired slot slot')
    (inside : List.Forall₂ (Alike paired) (expr.ways options subject start) ways') :
    List.Forall₂ (Alike paired) ((Expr.capture slot name expr).ways options subject start)
      ways' := by
  rw [Expr.ways, List.forall₂_map_left_iff]
  exact inside.imp fun _ _ => Alike.capture_left alone start.position

theorem alike_ways_withCardinality (cardinality : Cardinality) (alike : Alike paired start start')
    (inside : List.Forall₂ (Alike paired) (expr.ways options subject start)
      (expr'.ways options subject start')) :
    List.Forall₂ (Alike paired) ((withCardinality cardinality expr).ways options subject start)
      ((withCardinality cardinality expr').ways options subject start') := by
  cases cardinality with
  | required => exact inside
  | optional => exact List.rel_append inside (.cons alike .nil)

/-- Where the first parts match alike, and the others from alike arrivals on, so do all of them. -/
theorem alike_waysAll {exprs exprs' : List Expr}
    (first : List.Forall₂ (Alike paired) (expr.ways options subject start)
      (expr'.ways options subject start'))
    (rest : ∀ ⦃middle middle'⦄, Alike paired middle middle' →
      List.Forall₂ (Alike paired) (Expr.waysAll options subject exprs middle)
        (Expr.waysAll options subject exprs' middle')) :
    List.Forall₂ (Alike paired) (Expr.waysAll options subject (expr :: exprs) start)
      (Expr.waysAll options subject (expr' :: exprs') start') :=
  List.rel_flatMap first fun _ _ alike => rest alike

theorem waysAll_position (exprs : List Expr) :
    Expr.waysAll options subject (.capture slot name .empty :: exprs) start =
      Expr.waysAll options subject exprs (start.capture slot start.position) :=
  List.append_nil _

end Ways

theorem Twins.matchAlike {paired : Nat → Nat → Prop} {shared : SchemaId → Place → Bool}
    (pairing : IsPairing paired) (options : Options) (subject : Subject) {piece piece' : Piece}
    (twins : Twins paired shared piece piece') :
    piece.MatchAlike paired options subject piece' := by
  induction twins with
  | record pair fields ih =>
    intro start start' alike
    exact alike_ways_capture pairing pair alike (ih alike)
  | noFields => exact fun start start' alike => .cons alike .nil
  | separator rest ih =>
    intro start start' alike
    exact alike_waysAll (alike_ways_fragment _ alike) ih
  | scalar pair rest ih =>
    intro start start' alike
    exact alike_waysAll (alike_ways_capture pairing pair alike (alike_ways_fragment _ alike)) ih
  | position pair rest ih =>
    intro start start' alike
    exact alike_waysAll (alike_ways_capture pairing pair alike (.cons alike .nil)) ih
  | nested pair common inside rest held others =>
    intro start start' alike
    exact alike_waysAll (alike_ways_capture pairing pair alike
      (alike_ways_withCardinality _ alike (held alike))) others
  | union pair inside rest held others =>
    intro start start' alike
    exact alike_waysAll (alike_ways_capture pairing pair alike
      (alike_ways_withCardinality _ alike (held alike))) others
  | released alone hidden rest ih =>
    intro start start' alike
    exact alike_waysAll (alike_ways_released alone (alike_ways_fragment _ alike)) ih
  | inserted alone hidden rest ih =>
    intro start start' alike
    rw [waysAll_position]
    exact ih (alike.capture_right alone start'.position)
  | noVariants => exact fun start start' alike => .nil
  | variant first rest held others =>
    intro start start' alike
    exact List.rel_append (held alike) (others alike)

end Compilation

end SchemaMatch
