import Mathlib.Data.List.Basic

/-!
# Addresses in trees

An address leads to a node of a tree by the places of children. The nodes of a tree are listed with
their addresses by putting the place of a child in front of those that are listed for the child. The
main statements are `Addressed.mem_listed_iff`, by which such a list has every node at the address
that leads to it, and `Addressed.pairwise_inPlaces`, by which it is in order.
-/

namespace SchemaMatch

/-- Something with the address that leads to it. -/
abbrev Addressed (α : Type) := List Nat × α

namespace Addressed

variable {α β : Type} {listed : β → List (Addressed α)} {index : Nat} {items : List β}

/-- Something inside of the child in a place. -/
def below (index : Nat) (entry : Addressed α) : Addressed α := (index :: entry.1, entry.2)

def inPlaces (listed : β → List (Addressed α)) (index : Nat) : List β → List (Addressed α)
  | [] => []
  | item :: rest => (listed item).map (below index) ++ inPlaces listed (index + 1) rest

theorem mem_inPlaces {address : List Nat} {value : α} :
    (address, value) ∈ inPlaces listed index items ↔
      ∃ place child rest, items[place]? = some child ∧ address = (index + place) :: rest ∧
        (rest, value) ∈ listed child := by
  induction items generalizing index with
  | nil => simp [inPlaces]
  | cons item rest ih =>
    rw [inPlaces, List.mem_append, List.mem_map, ih]
    constructor
    · rintro (⟨⟨tail, found⟩, member, same⟩ | ⟨place, child, tail, among, rfl, member⟩)
      · cases same
        exact ⟨0, item, tail, rfl, rfl, member⟩
      · exact ⟨place + 1, child, tail, among, by rw [Nat.add_right_comm]; rfl, member⟩
    · rintro ⟨place, child, tail, among, rfl, member⟩
      cases place with
      | zero =>
        cases among
        exact .inl ⟨(tail, value), member, rfl⟩
      | succ place =>
        exact .inr ⟨place, child, tail, among, by rw [Nat.add_right_comm]; rfl, member⟩

theorem map_snd_inPlaces (listed : β → List (Addressed α)) (index : Nat) (items : List β) :
    (inPlaces listed index items).map Prod.snd =
      items.flatMap fun item => (listed item).map Prod.snd := by
  induction items generalizing index with
  | nil => rfl
  | cons item rest ih =>
    rw [inPlaces, List.map_append, List.map_map, ih, List.flatMap_cons]
    rfl

/-- What is listed for children is in order if it is for each of them, in an order by which children
come from left to right. -/
theorem pairwise_inPlaces {order : List Nat → List Nat → Prop}
    (left : ∀ {place other : Nat} {rest tail : List Nat}, place < other →
      order (place :: rest) (other :: tail))
    (within : ∀ {place : Nat} {rest tail : List Nat}, order rest tail →
      order (place :: rest) (place :: tail))
    (each : ∀ item ∈ items, (listed item).Pairwise fun one two => order one.1 two.1) :
    (inPlaces listed index items).Pairwise fun one two => order one.1 two.1 := by
  induction items generalizing index with
  | nil => exact .nil
  | cons item rest ih =>
    rw [inPlaces, List.pairwise_append, List.pairwise_map]
    refine ⟨?_, ih fun other member => each other (List.mem_cons_of_mem _ member), ?_⟩
    · exact (each item List.mem_cons_self).imp within
    · rintro first here ⟨address, value⟩ there
      obtain ⟨entry, _, rfl⟩ := List.mem_map.1 here
      obtain ⟨place, child, tail, _, rfl, _⟩ := mem_inPlaces.1 there
      exact left (by omega)

/-- A list of a node and of what is listed for its children has every node at the address that leads
to it. -/
theorem mem_listed_iff {listed : α → List (Addressed α)} {children : α → List α}
    {at? : α → List Nat → Option α} (root : ∀ node, at? node [] = some node)
    (step : ∀ node index rest, at? node (index :: rest) =
      (children node)[index]?.bind fun child => at? child rest)
    (parts : ∀ node entry, entry ∈ listed node ↔
      entry = ([], node) ∨ entry ∈ inPlaces listed 0 (children node))
    {node inner : α} {address : List Nat} :
    (address, inner) ∈ listed node ↔ at? node address = some inner := by
  induction address generalizing node with
  | nil =>
    rw [parts, root]
    constructor
    · rintro (same | member)
      · cases same
        rfl
      · obtain ⟨place, child, rest, _, absurd, _⟩ := mem_inPlaces.1 member
        cases absurd
    · rintro ⟨⟩
      exact .inl rfl
  | cons index rest ih =>
    rw [parts, step, or_iff_right nofun, mem_inPlaces, Option.bind_eq_some_iff]
    constructor
    · rintro ⟨place, child, tail, among, same, member⟩
      cases same
      rw [Nat.zero_add]
      exact ⟨child, among, ih.1 member⟩
    · rintro ⟨child, among, found⟩
      exact ⟨index, child, rest, among, by rw [Nat.zero_add], ih.2 found⟩

end Addressed

end SchemaMatch
