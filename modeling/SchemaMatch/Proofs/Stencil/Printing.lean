import SchemaMatch.Proofs.Stencil.Outline

/-!
# What is printed of a stencil

As long as names and the indentation hold no line feed, the lines of a printed stencil can be read
back from the text. They are those of the outline: one for each slot, in order, and one for each
separator in its place. A greatest depth only shortens them. The main statement is
`StencilPrinter.print_of_compile`.
-/

namespace SchemaMatch

namespace Text

/-- A text holds no line feed. -/
def IsUnbroken (text : String) : Prop := '\n' ∉ text.toList

instance (text : String) : Decidable (IsUnbroken text) :=
  inferInstanceAs (Decidable ('\n' ∉ text.toList))

theorem IsUnbroken.append {one two : String} (first : IsUnbroken one) (second : IsUnbroken two) :
    IsUnbroken (one ++ two) := by
  rw [IsUnbroken, String.toList_append, List.mem_append]
  exact not_or.2 ⟨first, second⟩

theorem isUnbroken_toString (number : Nat) : IsUnbroken (toString number) := by
  intro member
  rw [Nat.toString_eq_repr, Nat.toList_repr] at member
  have digit : '\n'.isDigit = true :=
    Nat.isDigit_of_mem_toDigits (by decide) (by decide) member
  exact absurd digit (by decide)

theorem isUnbroken_word (representation : Representation) : IsUnbroken representation.word := by
  cases representation <;> decide

end Text

open Text (IsUnbroken isUnbroken_toString isUnbroken_word)

namespace Stencil

/-- All nodes of a stencil in pre-order, each at the address that leads to it. -/
structure IsOutline (stencil : Stencil) (placed : List Placed) : Prop where
  ordered : placed.Pairwise fun one two => Scope.Precedes one.1 two.1
  complete : ∀ address node,
    (address, node) ∈ placed ↔ (Node.record stencil).at? address = some node

theorem isOutline_outline (stencil : Stencil) : stencil.IsOutline (Node.record stencil).outline :=
  ⟨Node.pairwise_outline _, fun _ _ => Node.mem_outline_iff⟩

namespace Node

theorem slot?_eq_none_iff {node : Node} : node.slot? = none ↔ node = .field .separator := by
  match node with
  | record (.mk schema name typeName slot fields) => simp [slot?]
  | field .separator => simp [slot?, FieldStencil.slot?]
  | field (.scalar name slot dest representation) => simp [slot?, FieldStencil.slot?]
  | field (.position name slot dest) => simp [slot?, FieldStencil.slot?]
  | field (.nested name slot dest holder child) => simp [slot?, FieldStencil.slot?]
  | field (.union name slot dest capability capabilityName variants) =>
    simp [slot?, FieldStencil.slot?]

/-- The line of a node holds no line feed if its names do not. -/
theorem isUnbroken_text {node : Node} (plain : ∀ name ∈ node.names, IsUnbroken name) :
    IsUnbroken node.text := by
  have mark : IsUnbroken " @" := by decide
  have label {name : String} (own : IsUnbroken name) (slot : Nat) : IsUnbroken s!"{name} @{slot}" :=
    (own.append mark).append (isUnbroken_toString slot)
  match node with
  | record (.mk schema name typeName slot fields) => exact label (plain name (.head _)) slot
  | field .separator => decide
  | field (.scalar name slot dest representation) =>
    have blank : IsUnbroken " " := by decide
    exact ((label (plain name (.head _)) slot).append blank).append
      (isUnbroken_word representation)
  | field (.position name slot dest) =>
    have word : IsUnbroken " Pos" := by decide
    exact (label (plain name (.head _)) slot).append word
  | field (.nested name slot dest holder child) => exact label (plain name (.head _)) slot
  | field (.union name slot dest capability capabilityName variants) =>
    have word : IsUnbroken " union " := by decide
    exact ((label (plain name (.head _)) slot).append word).append
      (plain capabilityName (.tail _ (.head _)))

end Node

end Stencil

theorem Scope.slots_of_compile {scope : Scope} {root : SchemaId} {stencil : Stencil} {expr : Expr}
    (success : scope.compile root = .ok (stencil, expr)) :
    stencil.slots.map Prod.snd = stencil.labels.map Prod.fst ∧
      stencil.slots.map Prod.snd = List.range stencil.slotCount := by
  obtain ⟨next, laid⟩ := laid_of_compile success
  obtain ⟨_, numbers⟩ := Stencil.Tiles.labels stencil laid.tiles
  have listed : stencil.slots.map Prod.snd = stencil.labels.map Prod.fst :=
    stencil.map_snd_slotsAt stencil.name
  have count : stencil.slotCount = stencil.labels.length := by
    simpa only [Stencil.slotCount, List.length_map] using congrArg List.length listed
  exact ⟨listed, by rw [listed, numbers, count, List.range_eq_range']⟩

namespace StencilPrinter

open Stencil (Node Placed shorten)

/-! ### Lines of a text -/

/-- A line with its indentation, without the line feed. -/
def body (indent : String) (line : TreeLine) : String :=
  String.join (List.replicate line.depth indent) ++ line.text

/-- A text is made of some lines, each of which ends with a line feed. -/
def IsMadeOf (indent : String) (lines : List TreeLine) (text : String) : Prop :=
  text.toList.splitOn '\n' = lines.map (fun line => (body indent line).toList) ++ [[]]

theorem isUnbroken_body {indent : String} {line : TreeLine} (plain : IsUnbroken indent)
    (own : IsUnbroken line.text) : IsUnbroken (body indent line) := by
  refine IsUnbroken.append ?_ own
  rw [IsUnbroken, String.toList_join, List.mem_flatMap]
  rintro ⟨copy, member, within⟩
  exact plain (List.eq_of_mem_replicate member ▸ within)

/-- Lines without a line feed can be read back from the text that they make. -/
theorem isMadeOf_join {printer : StencilPrinter} {lines : List TreeLine}
    (plain : IsUnbroken printer.indent) (own : ∀ line ∈ lines, IsUnbroken line.text) :
    IsMadeOf printer.indent lines (String.join (lines.map printer.lineText)) := by
  unfold IsMadeOf
  rw [String.toList_join]
  induction lines with
  | nil => rfl
  | cons line rest ih =>
    have others := ih fun other member => own other (List.mem_cons_of_mem _ member)
    have here : IsUnbroken (body printer.indent line) :=
      isUnbroken_body plain (own line List.mem_cons_self)
    have first : (printer.lineText line).toList = (body printer.indent line).toList ++ ['\n'] :=
      String.toList_append
    rw [List.map_cons, List.flatMap_cons, first, List.append_assoc, List.singleton_append,
      List.splitOn_append_cons_self_of_not_mem here, others]
    rfl

/-! ### Printed stencils -/

theorem isUnbroken_of_shorten {depth : Nat} {line short : TreeLine} (own : IsUnbroken line.text)
    (left : shorten depth line = some short) : IsUnbroken short.text := by
  unfold shorten at left
  split at left
  · cases left
    exact own
  · split at left
    · cases left
      exact (by decide : IsUnbroken "...")
    · cases left

/-- A greatest depth that no line exceeds changes nothing. -/
theorem filterMap_shorten {depth : Nat} {lines : List TreeLine}
    (shown : ∀ line ∈ lines, line.depth ≤ depth) : lines.filterMap (shorten depth) = lines := by
  rw [List.filterMap_congr fun line member => Stencil.shorten_of_le (shown line member)]
  exact List.filterMap_some

/-- If names and the indentation hold no line feed, the text that is printed of a compiled stencil
has the lines of its outline: one for each slot, in the order of the slots, and one for each
separator in its place, each indented as often as its address is long. With a greatest depth the
lines that are one level deeper become ellipses, and those that are deeper than that are left out;
so a depth that no line exceeds leaves the text as it is. -/
theorem print_of_compile {scope : Scope} {root : SchemaId} {stencil : Stencil} {expr : Expr}
    (success : scope.compile root = .ok (stencil, expr)) {indent : String}
    (plain : IsUnbroken indent)
    (names : ∀ address node, (Node.record stencil).at? address = some node →
      ∀ name ∈ node.names, IsUnbroken name) :
    ∃ placed, stencil.IsOutline placed ∧
      placed.filterMap (fun one => one.2.slot?) = stencil.slots.map Prod.snd ∧
      stencil.slots.map Prod.snd = List.range stencil.slotCount ∧
      (∀ one ∈ placed, one.2.slot? = none ↔ one.2 = .field .separator) ∧
      IsMadeOf indent (placed.map (Placed.line 0)) (print ⟨indent, none⟩ stencil) ∧
      ∀ depth, IsMadeOf indent ((placed.map (Placed.line 0)).filterMap (shorten depth))
          (print ⟨indent, some depth⟩ stencil) ∧
        ((∀ one ∈ placed, one.1.length ≤ depth) →
          print ⟨indent, some depth⟩ stencil = print ⟨indent, none⟩ stencil) := by
  obtain ⟨listed, numbers⟩ := Scope.slots_of_compile success
  have whole : lines ⟨indent, none⟩ stencil =
      (Node.record stencil).outline.map (Placed.line 0) := Node.lines_none 0 (.record stencil)
  have shortened (depth : Nat) : lines ⟨indent, some depth⟩ stencil =
      ((Node.record stencil).outline.map (Placed.line 0)).filterMap (shorten depth) :=
    Node.lines_some (Nat.zero_le (depth + 1)) (.record stencil)
  have own : ∀ line ∈ (Node.record stencil).outline.map (Placed.line 0),
      IsUnbroken line.text := by
    intro line member
    obtain ⟨⟨address, node⟩, among, rfl⟩ := List.mem_map.1 member
    exact Node.isUnbroken_text (names address node (Node.mem_outline_iff.1 among))
  refine ⟨_, stencil.isOutline_outline, ?_, numbers, fun one _ => Node.slot?_eq_none_iff, ?_,
    fun depth => ⟨?_, fun shown => ?_⟩⟩
  · rw [Node.filterMap_slot?_outline, listed]
    rfl
  · rw [print, whole]
    exact isMadeOf_join plain own
  · rw [print, shortened]
    refine isMadeOf_join plain fun short member => ?_
    obtain ⟨line, among, left⟩ := List.mem_filterMap.1 member
    exact isUnbroken_of_shorten (own line among) left
  · rw [print, print, whole, shortened, filterMap_shorten]
    · rfl
    · intro line member
      obtain ⟨one, among, rfl⟩ := List.mem_map.1 member
      exact (Nat.zero_add _).trans_le (shown one among)

example : print { maxDepth := some 1 } samplePairStencil =
    "Pair @0\n  left @1 Text\n  _ separator\n  item @2\n    ...\n" := by
  rfl

/-- The names of `samplePair` hold no line feed. -/
theorem isUnbroken_samplePair {address : List Nat} {node : Node}
    (found : (Node.record samplePairStencil).at? address = some node) :
    ∀ name ∈ node.names, IsUnbroken name := by
  have unbroken : ∀ one ∈ (Node.record samplePairStencil).outline, ∀ name ∈ one.2.names,
      IsUnbroken name := by
    decide
  exact unbroken _ (Node.mem_outline_iff.2 found)

/-- The lines of `samplePair`, one for each of its slots and one for its separator. -/
theorem print_of_compile_samplePair :
    samplePair.compile 0 = .ok (samplePairStencil, samplePairTree) ∧
      ∃ placed, samplePairStencil.IsOutline placed ∧
        placed.filterMap (fun one => one.2.slot?) = [0, 1, 2, 3, 4, 5] ∧
        IsMadeOf "  " (placed.map (Placed.line 0)) (print {} samplePairStencil) ∧
        IsMadeOf "  " ((placed.map (Placed.line 0)).filterMap (shorten 1))
          (print { maxDepth := some 1 } samplePairStencil) := by
  have success : samplePair.compile 0 = .ok (samplePairStencil, samplePairTree) := rfl
  have plain : IsUnbroken "  " := by decide
  obtain ⟨placed, outlined, slots, _, _, whole, shortened⟩ :=
    print_of_compile success plain fun _ _ => isUnbroken_samplePair
  exact ⟨success, placed, outlined, slots, whole, (shortened 1).1⟩

end StencilPrinter

end SchemaMatch
