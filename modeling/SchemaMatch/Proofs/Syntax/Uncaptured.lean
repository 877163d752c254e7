import SchemaMatch.Proofs.Syntax.Postorder
import SchemaMatch.Proofs.Syntax.Strip

/-!
# What stripping captures changes

A tree without captures has its nodes at the same addresses as before. Only the openings of
capturing groups have changed, in the tree and in its text, so that stripping a second time changes
nothing. The main statement is `Ast.transform_strips`.
-/

namespace SchemaMatch.Syntax

/-- A piece of a printed tree: the opening of a capturing group, or other text. -/
inductive Piece
  | opening (kind : GroupKind)
  | text (chars : List Char)

namespace Piece

/-- The text of a piece. -/
def print : Piece → List Char
  | opening kind => kind.print
  | text chars => chars

/-- The piece with the opening of a group that neither captures nor switches flags, if it is an
opening. -/
def strip : Piece → Piece
  | opening _ => text ['(', '?', ':']
  | text chars => text chars

/-- The index of the group that a piece opens. -/
def index? : Piece → Option Nat
  | opening kind => kind.index?
  | text _ => none

@[simp] theorem print_text (chars : List Char) : (text chars).print = chars := rfl

@[simp] theorem strip_text (chars : List Char) : (text chars).strip = text chars := rfl

@[simp] theorem index?_text (chars : List Char) : (text chars).index? = none := rfl

end Piece

def GroupKind.piece : GroupKind → Piece
  | captureIndex index => .opening (captureIndex index)
  | captureName startsWithP name => .opening (captureName startsWithP name)
  | nonCapturing flags => .text (nonCapturing flags).print

namespace GroupKind

variable (kind : GroupKind)

@[simp] theorem print_piece : kind.piece.print = kind.print := by
  cases kind <;> rfl

@[simp] theorem piece_strip (span : Span) : (kind.strip span).piece = kind.piece.strip := by
  cases kind <;> rfl

/-- The piece of an opening opens the group around what is inside of it, if that captures. -/
theorem toList_index?_piece (inside : List Group) :
    kind.piece.index?.toList ++ Group.indicesAll inside =
      Group.indicesAll (kind.around inside) := by
  cases kind <;> simp [piece, Piece.index?, around, index?, Group.indicesAll, Group.indices]

end GroupKind

namespace Ast

/-! ### Pieces -/

mutual

/-- The pieces that a tree is printed in. -/
def pieces : Ast → List Piece
  | repetition _ kind greedy sub =>
    sub.pieces ++ [.text (kind.print ++ if greedy then [] else ['?'])]
  | group _ kind sub => kind.piece :: sub.pieces ++ [.text [')']]
  | alternation _ branches => piecesBranches branches
  | concat _ items => piecesAll items
  | leaf => [.text leaf.print]

def piecesAll : List Ast → List Piece
  | [] => []
  | item :: rest => item.pieces ++ piecesAll rest

def piecesBranches : List Ast → List Piece
  | [] => []
  | [branch] => branch.pieces
  | branch :: next :: rest => branch.pieces ++ .text ['|'] :: piecesBranches (next :: rest)

end

mutual

theorem flatMap_print_pieces : (ast : Ast) → ast.pieces.flatMap Piece.print = ast.print
  | .empty _ => rfl
  | .flags _ _ => by simp [pieces]
  | .literal _ => by simp [pieces]
  | .dot _ => rfl
  | .assertion _ _ => by simp [pieces]
  | .property _ => by simp [pieces]
  | .perl _ => by simp [pieces]
  | .bracketed _ _ _ => by simp [pieces]
  | .repetition _ kind greedy sub => by
    simp [pieces, print, sub.flatMap_print_pieces]
  | .group _ kind sub => by simp [pieces, print, sub.flatMap_print_pieces]
  | .alternation _ branches => flatMap_print_piecesBranches branches
  | .concat _ items => flatMap_print_piecesAll items

theorem flatMap_print_piecesAll : (items : List Ast) →
    (piecesAll items).flatMap Piece.print = printAll items
  | [] => rfl
  | item :: rest => by
    simp only [piecesAll, printAll, List.flatMap_append, item.flatMap_print_pieces,
      flatMap_print_piecesAll rest]

theorem flatMap_print_piecesBranches : (branches : List Ast) →
    (piecesBranches branches).flatMap Piece.print = printBranches branches
  | [] => rfl
  | branch :: rest => by
    have later := flatMap_print_piecesBranches rest
    cases rest with
    | nil => exact branch.flatMap_print_pieces
    | cons next others =>
      simp [piecesBranches, printBranches, branch.flatMap_print_pieces, later]

end

mutual

theorem pieces_stripCaptures : (ast : Ast) → ast.stripCaptures.pieces = ast.pieces.map Piece.strip
  | .empty _ => rfl
  | .flags _ _ => rfl
  | .literal _ => rfl
  | .dot _ => rfl
  | .assertion _ _ => rfl
  | .property _ => rfl
  | .perl _ => rfl
  | .bracketed _ _ _ => rfl
  | .repetition _ _ _ sub => by simp [pieces, sub.pieces_stripCaptures]
  | .group _ _ sub => by simp [pieces, sub.pieces_stripCaptures]
  | .alternation _ branches => by
    simp only [stripCaptures_alternation, pieces, piecesBranches_stripCaptures branches]
  | .concat _ items => by
    simp only [stripCaptures_concat, pieces, piecesAll_stripCaptures items]

theorem piecesAll_stripCaptures : (items : List Ast) →
    piecesAll (items.map stripCaptures) = (piecesAll items).map Piece.strip
  | [] => rfl
  | item :: rest => by
    simp only [List.map_cons, piecesAll, List.map_append, item.pieces_stripCaptures,
      piecesAll_stripCaptures rest]

theorem piecesBranches_stripCaptures : (branches : List Ast) →
    piecesBranches (branches.map stripCaptures) = (piecesBranches branches).map Piece.strip
  | [] => rfl
  | branch :: rest => by
    have later := piecesBranches_stripCaptures rest
    cases rest with
    | nil => exact branch.pieces_stripCaptures
    | cons next others =>
      rw [List.map_cons] at later
      simp [piecesBranches, branch.pieces_stripCaptures, later]

end

mutual

/-- The pieces of a tree open its capturing groups, each of them once and in order. -/
theorem filterMap_index?_pieces : (ast : Ast) →
    ast.pieces.filterMap Piece.index? = Group.indicesAll ast.groups
  | .empty _ => rfl
  | .flags _ _ => rfl
  | .literal _ => rfl
  | .dot _ => rfl
  | .assertion _ _ => rfl
  | .property _ => rfl
  | .perl _ => rfl
  | .bracketed _ _ _ => rfl
  | .repetition _ _ _ sub => by
    simp [pieces, groups, sub.filterMap_index?_pieces]
  | .group _ kind sub => by
    rw [groups, ← kind.toList_index?_piece, ← sub.filterMap_index?_pieces, pieces,
      List.filterMap_append, List.filterMap_cons]
    cases kind.piece.index? <;> simp
  | .alternation _ branches => filterMap_index?_piecesBranches branches
  | .concat _ items => filterMap_index?_piecesAll items

theorem filterMap_index?_piecesAll : (items : List Ast) →
    (piecesAll items).filterMap Piece.index? = Group.indicesAll (groupsAll items)
  | [] => rfl
  | item :: rest => by
    simp only [piecesAll, groupsAll, List.filterMap_append, item.filterMap_index?_pieces,
      filterMap_index?_piecesAll rest, Group.indicesAll_append]

theorem filterMap_index?_piecesBranches : (branches : List Ast) →
    (piecesBranches branches).filterMap Piece.index? = Group.indicesAll (groupsAll branches)
  | [] => rfl
  | branch :: rest => by
    have later := filterMap_index?_piecesBranches rest
    rw [groupsAll, Group.indicesAll_append, ← branch.filterMap_index?_pieces, ← later]
    cases rest with
    | nil => exact (List.append_nil _).symm
    | cons next others =>
      rw [piecesBranches, List.filterMap_append, List.filterMap_cons_none rfl]

end

/-! ### Nodes -/

/-- The groups that capture. -/
inductive IsCapture : Ast → Prop
  | index {span : Span} {index : Nat} {sub : Ast} : IsCapture (group span (.captureIndex index) sub)
  | name {span : Span} {startsWithP : Bool} {name : CaptureName} {sub : Ast} :
      IsCapture (group span (.captureName startsWithP name) sub)

/-- What becomes of a node, apart from what is inside of it: a group that captures neither captures
nor switches flags, and every other node is the same and has as many children. -/
inductive IsStripped : Ast → Ast → Prop
  | opened {span : Span} {kind : GroupKind} {sub other : Ast}
      (captures : (group span kind sub).IsCapture) :
      IsStripped (group span kind sub) (group span (.nonCapturing ⟨span, []⟩) other)
  | kept {node : Ast} {others : List Ast} (plain : ¬node.IsCapture)
      (arity : others.length = node.children.length) : IsStripped node (node.withChildren others)

theorem children_stripCaptures (node : Ast) :
    node.stripCaptures.children = node.children.map stripCaptures := by
  cases node with
  | group span kind sub => rw [stripCaptures_group]; rfl
  | alternation span branches => rw [stripCaptures_alternation]; rfl
  | concat span items => rw [stripCaptures_concat]; rfl
  | _ => rfl

theorem at?_stripCaptures (node : Ast) (address : List Nat) :
    node.stripCaptures.at? address = (node.at? address).map stripCaptures := by
  induction address generalizing node with
  | nil => rfl
  | cons index rest ih =>
    rw [at?, at?, children_stripCaptures, List.getElem?_map, Option.map_bind, Option.bind_map]
    exact congrArg _ (funext ih)

theorem isStripped_stripCaptures (node : Ast) : node.IsStripped node.stripCaptures := by
  have kept {node : Ast} (plain : ¬node.IsCapture)
      (same : node.stripCaptures = node.withChildren (node.children.map stripCaptures)) :
      node.IsStripped node.stripCaptures := by
    rw [same]
    exact .kept plain (List.length_map _)
  cases node with
  | group span kind sub =>
    cases kind with
    | captureIndex index => exact .opened .index
    | captureName startsWithP name => exact .opened .name
    | nonCapturing flags => exact kept nofun rfl
  | alternation span branches => exact kept nofun (stripCaptures_alternation span branches)
  | concat span items => exact kept nofun (stripCaptures_concat span items)
  | _ => exact kept nofun rfl

theorem stripCaptures_of_groups_eq_nil {ast : Ast} (plain : ast.groups = []) :
    ast.stripCaptures = ast := by
  have all (items : List Ast)
      (each : ∀ item ∈ items, item.groups = [] → item.stripCaptures = item)
      (plain : groupsAll items = []) : items.map stripCaptures = items := by
    rw [groupsAll_eq_flatMap, List.flatMap_eq_nil_iff] at plain
    exact (List.map_congr_left fun item member => each item member (plain item member)).trans
      (List.map_id' items)
  induction ast using induct with
  | step node ih =>
    match node with
    | repetition span kind greedy sub =>
      rw [stripCaptures_repetition, ih sub (List.mem_singleton_self sub) plain]
    | group span kind sub =>
      cases kind with
      | captureIndex index => cases plain
      | captureName startsWithP name => cases plain
      | nonCapturing list =>
        rw [stripCaptures_group, ih sub (List.mem_singleton_self sub) plain]
        rfl
    | alternation span branches => rw [stripCaptures_alternation, all branches ih plain]
    | concat span items => rw [stripCaptures_concat, all items ih plain]
    | empty _ => rfl
    | flags _ _ => rfl
    | literal _ => rfl
    | dot _ => rfl
    | assertion _ _ => rfl
    | property _ => rfl
    | perl _ => rfl
    | bracketed _ _ _ => rfl

/-- A transformation calls back once for each node of a tree, in post-order; each call sees its node
over what the calls for its children returned. Stripping captures leaves all nodes where they are
and changes the opening of each group that captures and nothing else, a second time nothing at all.
In the text it replaces the openings of these groups. -/
theorem transform_strips (ast : Ast) :
    (∃ addresses, ast.IsPostorder addresses ∧ addresses.map ast.at? = ast.visited.map some) ∧
    (∀ (m : Type → Type) [Monad m] [LawfulMonad m] (f : Ast → m Ast),
      ast.visited.foldlM (callBack f) [] =
        transformM f ast >>= fun result => pure [result]) ∧
    (∀ address, Option.Rel IsStripped (ast.at? address) (ast.stripCaptures.at? address)) ∧
    ast.stripCaptures.stripCaptures = ast.stripCaptures ∧
    ast.render = String.ofList (ast.pieces.flatMap Piece.print) ∧
    ast.stripCaptures.render = String.ofList ((ast.pieces.map Piece.strip).flatMap Piece.print) ∧
    ast.pieces.filterMap Piece.index? = Group.indicesAll ast.groups := by
  refine ⟨⟨ast.addresses, ast.isPostorder_addresses, ?_⟩, ?_, ?_, ?_, ?_, ?_, ?_⟩
  · rw [map_at?_addresses, visited_eq]
  · intro m _ _ f
    rw [visited_eq, foldlM_callBack]
  · intro address
    rw [at?_stripCaptures]
    cases ast.at? address with
    | none => exact .none
    | some node => exact .some node.isStripped_stripCaptures
  · exact stripCaptures_of_groups_eq_nil ast.groups_stripCaptures
  · rw [flatMap_print_pieces, render]
  · rw [← pieces_stripCaptures, flatMap_print_pieces, render]
  · exact ast.filterMap_index?_pieces

/-- A named group in a group, around a lazy repetition of any character. -/
def sampleNesting : Ast :=
  .group .nowhere (.captureIndex 1)
    (.group .nowhere (.captureName false ⟨.nowhere, "a", 2⟩)
      (.repetition .nowhere .zeroOrMore false (.dot .nowhere)))

/-- Strips a node of its capture and counts the call. -/
def countedStrip (node : Ast) : StateM Nat Ast := do
  modify (· + 1)
  return stripCapture node

/-- Stripping the nodes of `sampleNesting` one after another takes four calls, which leave one tree:
the one that a transformation with these calls makes. -/
theorem transform_strips_sampleNesting :
    LawfulMonad (StateM Nat) ∧
      (sampleNesting.visited.foldlM (callBack countedStrip) []).run 0 =
        ([sampleNesting.stripCaptures], 4) ∧
      sampleNesting.render = "((?<a>.*?))" ∧
      sampleNesting.stripCaptures.render = "(?:(?:.*?))" := by
  obtain ⟨_, runs, _, _, _, stripped, _⟩ := transform_strips sampleNesting
  refine ⟨inferInstance, ?_, rfl, stripped.trans rfl⟩
  rw [runs (StateM Nat) countedStrip]
  rfl

end Ast

end SchemaMatch.Syntax
