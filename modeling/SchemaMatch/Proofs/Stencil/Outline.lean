import SchemaMatch.Proofs.Address
import SchemaMatch.Proofs.Compilation.Fault
import SchemaMatch.Proofs.Compilation.Slots
import SchemaMatch.Stencil.Printer

/-!
# The outline of a stencil

A printed stencil has a line for each of its nodes: its records and their fields. A record has its
fields inside of it, a nested field its record and a union its variants. The outline lists the nodes
in pre-order, each at the address that leads to it; the depth of a line is the length of that. The
main statements are `Node.lines_none` and `Node.lines_some`, which say what is printed without a
greatest depth and with one.
-/

namespace SchemaMatch

open Scope (Precedes)
open StencilPrinter (cut stencilLines fieldLines variantLines)

namespace Stencil

/-- What a line of a printed stencil stands for. -/
inductive Node
  | record (stencil : Stencil)
  | field (stencil : FieldStencil)

namespace Node

def children : Node → List Node
  | record stencil => stencil.fields.map field
  | field (.nested _ _ _ _ child) => [record child]
  | field (.union _ _ _ _ _ variants) => variants.map record
  | field _ => []

/-- The node that an address leads to, by the places of children. -/
def at? : Node → List Nat → Option Node
  | node, [] => some node
  | node, index :: rest => (node.children[index]?).bind fun child => child.at? rest

/-- The slot of a node; separators have none. -/
def slot? : Node → Option Nat
  | record stencil => some stencil.slot
  | field stencil => stencil.slot?

/-- The names in the line of a node. -/
def names : Node → List String
  | record stencil => [stencil.name]
  | field (.union name _ _ _ capability _) => [name, capability]
  | field stencil => [stencil.name]

/-- The text of the line of a node. -/
def text : Node → String
  | record stencil => s!"{stencil.name} @{stencil.slot}"
  | field .separator => s!"{Field.separatorName} separator"
  | field (.scalar name slot _ representation) => s!"{name} @{slot} {representation.word}"
  | field (.position name slot _) => s!"{name} @{slot} Pos"
  | field (.nested name slot _ _ _) => s!"{name} @{slot}"
  | field (.union name slot _ _ capability _) => s!"{name} @{slot} union {capability}"

theorem induct {motive : Node → Prop}
    (step : ∀ node, (∀ child ∈ node.children, motive child) → motive node) (node : Node) :
    motive node := by
  refine step node fun child member => ?_
  have smaller : sizeOf child < sizeOf node := by
    match node with
    | record (.mk schema name typeName slot fields) =>
      obtain ⟨inner, listed, rfl⟩ := List.mem_map.1 member
      have less : sizeOf inner < sizeOf fields := List.sizeOf_lt_of_mem listed
      simp only [record.sizeOf_spec, field.sizeOf_spec, mk.sizeOf_spec]
      omega
    | field (.nested name slot dest holder inner) =>
      cases List.mem_singleton.1 member
      simp only [record.sizeOf_spec, field.sizeOf_spec, FieldStencil.nested.sizeOf_spec]
      omega
    | field (.union name slot dest capability capabilityName variants) =>
      obtain ⟨variant, listed, rfl⟩ := List.mem_map.1 member
      have less := List.sizeOf_lt_of_mem listed
      simp only [record.sizeOf_spec, field.sizeOf_spec, FieldStencil.union.sizeOf_spec]
      omega
  exact induct step child
termination_by sizeOf node

end Node

/-- A node with the address that leads to it. -/
abbrev Placed := List Nat × Node

def Placed.below (index : Nat) (placed : Placed) : Placed := (index :: placed.1, placed.2)

mutual

/-- The nodes of a stencil in pre-order. -/
def placed : Stencil → List Placed
  | mk schema name typeName slot fields =>
    ([], .record (mk schema name typeName slot fields)) :: placedFields 0 fields

def placedFields (index : Nat) : List FieldStencil → List Placed
  | [] => []
  | field :: rest =>
    (([], .field field) :: placedInside field).map (Placed.below index) ++
      placedFields (index + 1) rest

def placedInside : FieldStencil → List Placed
  | .nested _ _ _ _ child => (placed child).map (Placed.below 0)
  | .union _ _ _ _ _ variants => placedVariants 0 variants
  | _ => []

def placedVariants (index : Nat) : List Stencil → List Placed
  | [] => []
  | variant :: rest =>
    (placed variant).map (Placed.below index) ++ placedVariants (index + 1) rest

end

namespace Node

/-- The outline of a node: itself and the nodes inside of it, in pre-order. -/
def outline : Node → List Placed
  | record stencil => stencil.placed
  | field stencil => ([], field stencil) :: placedInside stencil

def outlines (index : Nat) : List Node → List Placed
  | [] => []
  | node :: rest => node.outline.map (Placed.below index) ++ outlines (index + 1) rest

theorem outline_eq (node : Node) : node.outline = ([], node) :: outlines 0 node.children := by
  have fields (index : Nat) (stencils : List FieldStencil) :
      placedFields index stencils = outlines index (stencils.map field) := by
    induction stencils generalizing index with
    | nil => rfl
    | cons first rest ih =>
      rw [placedFields, ih]
      rfl
  have variants (index : Nat) (stencils : List Stencil) :
      placedVariants index stencils = outlines index (stencils.map record) := by
    induction stencils generalizing index with
    | nil => rfl
    | cons first rest ih =>
      rw [placedVariants, ih]
      rfl
  match node with
  | record (.mk schema name typeName slot declared) =>
    rw [outline, placed, fields]
    rfl
  | field (.nested name slot dest holder child) =>
    rw [outline, placedInside, children, outlines, outlines, List.append_nil, outline]
  | field (.union name slot dest capability capabilityName listed) =>
    rw [outline, placedInside, variants, children]
  | field .separator => rfl
  | field (.scalar name slot dest representation) => rfl
  | field (.position name slot dest) => rfl

theorem outlines_eq_inPlaces (index : Nat) (nodes : List Node) :
    outlines index nodes = Addressed.inPlaces outline index nodes := by
  induction nodes generalizing index with
  | nil => rfl
  | cons node rest ih =>
    rw [outlines, Addressed.inPlaces, ih]
    rfl

theorem mem_outlines {index : Nat} {nodes : List Node} {address : List Nat} {inner : Node} :
    (address, inner) ∈ outlines index nodes ↔
      ∃ place child rest, nodes[place]? = some child ∧ address = (index + place) :: rest ∧
        (rest, inner) ∈ child.outline := by
  rw [outlines_eq_inPlaces, Addressed.mem_inPlaces]

theorem mem_outline_iff {node inner : Node} {address : List Nat} :
    (address, inner) ∈ node.outline ↔ node.at? address = some inner := by
  refine Addressed.mem_listed_iff (fun _ => rfl) (fun _ _ _ => rfl) fun node entry => ?_
  rw [outline_eq, List.mem_cons, outlines_eq_inPlaces]

theorem pairwise_outlines {index : Nat} {nodes : List Node}
    (each : ∀ node ∈ nodes, node.outline.Pairwise fun one two => Precedes one.1 two.1) :
    (outlines index nodes).Pairwise fun one two => Precedes one.1 two.1 := by
  rw [outlines_eq_inPlaces]
  exact Addressed.pairwise_inPlaces (fun less => .rel less) (fun earlier => .cons earlier) each

theorem pairwise_outline (node : Node) :
    node.outline.Pairwise fun one two => Precedes one.1 two.1 := by
  induction node using induct with
  | step node ih =>
    rw [outline_eq, List.pairwise_cons]
    refine ⟨?_, pairwise_outlines ih⟩
    rintro ⟨address, inner⟩ member
    obtain ⟨place, child, rest, _, rfl, _⟩ := mem_outlines.1 member
    exact .nil

/-! ### Slots -/

/-- The slots of a node and of those inside of it, in order. -/
def slots : Node → List Nat
  | record stencil => stencil.labels.map Prod.fst
  | field stencil => (fieldLabels [stencil]).map Prod.fst

theorem slots_eq (node : Node) : node.slots = node.slot?.toList ++ node.children.flatMap slots := by
  have fields (stencils : List FieldStencil) :
      (fieldLabels stencils).map Prod.fst = (stencils.map field).flatMap slots := by
    induction stencils with
    | nil => rfl
    | cons first rest ih =>
      rw [List.map_cons, List.flatMap_cons, ← ih]
      cases first <;> simp [fieldLabels, slots]
  have variants (stencils : List Stencil) :
      (variantLabels stencils).map Prod.fst = (stencils.map record).flatMap slots := by
    induction stencils with
    | nil => rfl
    | cons first rest ih => simp [variantLabels, slots, ih]
  match node with
  | record (.mk schema name typeName slot declared) =>
    rw [slots, labels, List.map_cons, fields]
    rfl
  | field (.nested name slot dest holder child) =>
    simp [slots, fieldLabels, children, slot?, FieldStencil.slot?]
  | field (.union name slot dest capability capabilityName listed) =>
    simp [slots, fieldLabels, children, slot?, FieldStencil.slot?, variants]
  | field .separator => rfl
  | field (.scalar name slot dest representation) => rfl
  | field (.position name slot dest) => rfl

theorem filterMap_outlines {α : Type} (f : Node → Option α) (index : Nat) (nodes : List Node) :
    (outlines index nodes).filterMap (fun placed => f placed.2) =
      nodes.flatMap fun node => node.outline.filterMap fun placed => f placed.2 := by
  induction nodes generalizing index with
  | nil => rfl
  | cons node rest ih =>
    rw [outlines, List.filterMap_append, List.filterMap_map, ih, List.flatMap_cons]
    rfl

theorem filterMap_slot?_outline (node : Node) :
    node.outline.filterMap (fun placed => placed.2.slot?) = node.slots := by
  induction node using induct with
  | step node ih =>
    rw [outline_eq, slots_eq, List.filterMap_cons, filterMap_outlines, List.flatMap_congr ih]
    cases node.slot? <;> rfl

/-! ### Lines -/

def lines (maxDepth : Option Nat) (depth : Nat) : Node → List TreeLine
  | record stencil => stencilLines maxDepth depth stencil
  | field stencil => fieldLines maxDepth depth [stencil]

/-- The line of a node comes before those inside of it, which are one level deeper. -/
theorem lines_eq (maxDepth : Option Nat) (depth : Nat) (node : Node) :
    node.lines maxDepth depth = cut maxDepth depth
      (⟨depth, node.text⟩ :: node.children.flatMap (lines maxDepth (depth + 1))) := by
  have fields (depth : Nat) (stencils : List FieldStencil) :
      fieldLines maxDepth depth stencils =
        (stencils.map field).flatMap (lines maxDepth depth) := by
    induction stencils with
    | nil => rfl
    | cons first rest ih =>
      rw [List.map_cons, List.flatMap_cons, ← ih]
      cases first <;> simp [fieldLines, lines]
  have variants (depth : Nat) (stencils : List Stencil) :
      variantLines maxDepth depth stencils =
        (stencils.map record).flatMap (lines maxDepth depth) := by
    induction stencils with
    | nil => rfl
    | cons first rest ih => simp [variantLines, lines, ih]
  match node with
  | record (.mk schema name typeName slot declared) =>
    rw [lines, stencilLines, fields]
    rfl
  | field (.nested name slot dest holder child) => simp [lines, fieldLines, children, text]
  | field (.union name slot dest capability capabilityName listed) =>
    simp [lines, fieldLines, children, text, variants]
  | field .separator => simp [lines, fieldLines, children, text]
  | field (.scalar name slot dest representation) => simp [lines, fieldLines, children, text]
  | field (.position name slot dest) => simp [lines, fieldLines, children, text]

end Node

/-- The line of a node at an address, below a depth. -/
def Placed.line (depth : Nat) (placed : Placed) : TreeLine :=
  ⟨depth + placed.1.length, placed.2.text⟩

/-- What is left of a line under a greatest depth. -/
def shorten (maxDepth : Nat) (line : TreeLine) : Option TreeLine :=
  if line.depth ≤ maxDepth then some line
  else if line.depth = maxDepth + 1 then some ⟨maxDepth + 1, "..."⟩
  else none

section Shorten

variable {maxDepth : Nat} {line : TreeLine}

theorem shorten_of_le (shown : line.depth ≤ maxDepth) : shorten maxDepth line = some line :=
  if_pos shown

theorem shorten_of_eq (next : line.depth = maxDepth + 1) :
    shorten maxDepth line = some ⟨maxDepth + 1, "..."⟩ := by
  rw [shorten, if_neg (by omega), if_pos next]

theorem shorten_of_lt (deeper : maxDepth + 1 < line.depth) : shorten maxDepth line = none := by
  rw [shorten, if_neg (by omega), if_neg (by omega)]

end Shorten

namespace Node

theorem map_line_outlines (depth index : Nat) (nodes : List Node) :
    (outlines index nodes).map (Placed.line depth) =
      nodes.flatMap fun node => node.outline.map (Placed.line (depth + 1)) := by
  have deeper (index : Nat) :
      Placed.line depth ∘ Placed.below index = Placed.line (depth + 1) := by
    funext placed
    simp only [Function.comp_apply, Placed.line, Placed.below, List.length_cons]
    rw [Nat.add_right_comm, Nat.add_assoc]
  induction nodes generalizing index with
  | nil => rfl
  | cons node rest ih =>
    rw [outlines, List.map_append, List.map_map, deeper, ih, List.flatMap_cons]

theorem lines_none (depth : Nat) (node : Node) :
    node.lines none depth = node.outline.map (Placed.line depth) := by
  induction node using induct generalizing depth with
  | step node ih =>
    rw [lines_eq, outline_eq, List.map_cons, map_line_outlines,
      List.flatMap_congr fun child member => ih child member (depth + 1)]
    rfl

theorem lines_some {maxDepth depth : Nat} (within : depth ≤ maxDepth + 1) (node : Node) :
    node.lines (some maxDepth) depth =
      (node.outline.map (Placed.line depth)).filterMap (shorten maxDepth) := by
  induction node using induct generalizing depth with
  | step node ih =>
    rw [lines_eq, outline_eq, List.map_cons]
    have depth_eq : (Placed.line depth ([], node)).depth = depth := rfl
    rcases Nat.lt_or_ge maxDepth depth with deep | shallow
    · -- The node is the first one on its way that is too deep, so what is inside of it is dropped.
      have level : depth = maxDepth + 1 := Nat.le_antisymm within deep
      have rest : ((outlines 0 node.children).map (Placed.line depth)).filterMap
          (shorten maxDepth) = [] := by
        rw [List.filterMap_eq_nil_iff]
        intro line member
        obtain ⟨⟨address, inner⟩, among, rfl⟩ := List.mem_map.1 member
        obtain ⟨place, child, tail, _, rfl, _⟩ := mem_outlines.1 among
        apply shorten_of_lt
        change maxDepth + 1 < depth + (tail.length + 1)
        omega
      rw [List.filterMap_cons_some (shorten_of_eq (depth_eq.trans level)), rest, cut,
        if_pos (by simpa using deep), level]
    · rw [List.filterMap_cons_some (shorten_of_le (depth_eq.trans_le shallow)),
        map_line_outlines, List.filterMap_flatMap, cut, if_neg (by simpa using shallow),
        List.flatMap_congr fun child member => ih child member (Nat.succ_le_succ shallow)]
      rfl

end Node

end Stencil

end SchemaMatch
