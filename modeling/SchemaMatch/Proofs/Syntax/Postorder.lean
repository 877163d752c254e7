import SchemaMatch.Proofs.Address
import SchemaMatch.Syntax.Transform

/-!
# Trees in post-order

An address leads to a node of a tree by the places of children. The nodes are listed in post-order,
each after those inside of it. A transformation calls back once for each entry of that list, in its
order, whatever a call does to its node: a call sees the node over what the calls for its children
returned. The main statements are `foldlM_callBack` about every callback, and `visited_eq` about the
one that only looks.
-/

namespace SchemaMatch.Syntax

namespace Ast

/-! ### Children and addresses -/

/-- The trees right inside of a node, in reading order. A bracketed class has none. -/
def children : Ast → List Ast
  | repetition _ _ _ sub => [sub]
  | group _ _ sub => [sub]
  | alternation _ branches => branches
  | concat _ items => items
  | _ => []

/-- The same node with other trees right inside of it, as many as it has. -/
def withChildren : Ast → List Ast → Ast
  | repetition span kind greedy _, [sub] => repetition span kind greedy sub
  | group span kind _, [sub] => group span kind sub
  | alternation span _, branches => alternation span branches
  | concat span _, items => concat span items
  | node, _ => node

@[simp] theorem withChildren_children (node : Ast) : node.withChildren node.children = node := by
  cases node <;> rfl

/-- The node that an address leads to, by the places of children. -/
def at? : Ast → List Nat → Option Ast
  | node, [] => some node
  | node, index :: rest => (node.children[index]?).bind fun child => child.at? rest

theorem induct {motive : Ast → Prop}
    (step : ∀ node, (∀ child ∈ node.children, motive child) → motive node) (node : Ast) :
    motive node := by
  refine step node fun child member => ?_
  have smaller : sizeOf child < sizeOf node := by
    match node with
    | repetition span kind greedy sub =>
      cases List.mem_singleton.1 member
      simp only [repetition.sizeOf_spec]
      omega
    | group span kind sub =>
      cases List.mem_singleton.1 member
      simp only [group.sizeOf_spec]
      omega
    | alternation span branches =>
      have less : sizeOf child < sizeOf branches := List.sizeOf_lt_of_mem member
      simp only [alternation.sizeOf_spec]
      omega
    | concat span items =>
      have less : sizeOf child < sizeOf items := List.sizeOf_lt_of_mem member
      simp only [concat.sizeOf_spec]
      omega
  exact induct step child
termination_by sizeOf node

/-! ### The order of the nodes -/

/-- One address comes before another in post-order: what is inside of a node comes before it, and
children come from left to right. -/
inductive Earlier : List Nat → List Nat → Prop
  | inside {index : Nat} {rest : List Nat} : Earlier (index :: rest) []
  | left {index other : Nat} {rest tail : List Nat} (less : index < other) :
      Earlier (index :: rest) (other :: tail)
  | within {index : Nat} {rest tail : List Nat} (earlier : Earlier rest tail) :
      Earlier (index :: rest) (index :: tail)

theorem Earlier.irrefl (address : List Nat) : ¬Earlier address address := by
  induction address with
  | nil => nofun
  | cons index rest ih =>
    intro earlier
    cases earlier with
    | left less => exact Nat.lt_irrefl _ less
    | within earlier => exact ih earlier

mutual

/-- The nodes of a tree in post-order, with their addresses. -/
def placed : Ast → List (Addressed Ast)
  | repetition span kind greedy sub =>
    sub.placed.map (Addressed.below 0) ++ [([], repetition span kind greedy sub)]
  | group span kind sub => sub.placed.map (Addressed.below 0) ++ [([], group span kind sub)]
  | alternation span branches => placedAll 0 branches ++ [([], alternation span branches)]
  | concat span items => placedAll 0 items ++ [([], concat span items)]
  | leaf => [([], leaf)]

def placedAll (index : Nat) : List Ast → List (Addressed Ast)
  | [] => []
  | item :: rest => item.placed.map (Addressed.below index) ++ placedAll (index + 1) rest

end

theorem placedAll_eq_inPlaces (index : Nat) (items : List Ast) :
    placedAll index items = Addressed.inPlaces placed index items := by
  induction items generalizing index with
  | nil => rfl
  | cons item rest ih => rw [placedAll, Addressed.inPlaces, ih]

theorem placed_eq (node : Ast) :
    node.placed = Addressed.inPlaces placed 0 node.children ++ [([], node)] := by
  cases node <;> simp [placed, children, placedAll_eq_inPlaces, Addressed.inPlaces]

theorem mem_placed_iff {node inner : Ast} {address : List Nat} :
    (address, inner) ∈ node.placed ↔ node.at? address = some inner := by
  refine Addressed.mem_listed_iff (fun _ => rfl) (fun _ _ _ => rfl) fun node entry => ?_
  rw [placed_eq, List.mem_append, List.mem_singleton, or_comm]

theorem pairwise_placed (node : Ast) :
    node.placed.Pairwise fun one two => Earlier one.1 two.1 := by
  induction node using induct with
  | step node ih =>
    rw [placed_eq, List.pairwise_append]
    refine ⟨Addressed.pairwise_inPlaces .left .within ih, List.pairwise_singleton _ _, ?_⟩
    rintro ⟨address, inner⟩ member last here
    obtain ⟨place, child, rest, _, rfl, _⟩ := Addressed.mem_inPlaces.1 member
    cases List.mem_singleton.1 here
    exact .inside

/-- The addresses of the nodes of a tree in post-order. -/
def addresses (node : Ast) : List (List Nat) := node.placed.map Prod.fst

/-- The nodes of a tree in post-order. -/
def nodes (node : Ast) : List Ast := node.placed.map Prod.snd

/-- Addresses of all nodes of a tree in post-order, each of them once. -/
structure IsPostorder (node : Ast) (addresses : List (List Nat)) : Prop where
  ordered : addresses.Pairwise Earlier
  once : addresses.Nodup
  complete : ∀ address, address ∈ addresses ↔ (node.at? address).isSome

theorem isPostorder_addresses (node : Ast) : node.IsPostorder node.addresses := by
  have ordered : node.addresses.Pairwise Earlier := List.pairwise_map.2 node.pairwise_placed
  refine ⟨ordered, ordered.imp ?once, fun address => ?complete⟩
  case once =>
    rintro address _ earlier rfl
    exact earlier.irrefl address
  case complete =>
    rw [Option.isSome_iff_exists]
    constructor
    · intro member
      obtain ⟨⟨_, inner⟩, listed, rfl⟩ := List.mem_map.1 member
      exact ⟨inner, mem_placed_iff.1 listed⟩
    · rintro ⟨inner, found⟩
      exact List.mem_map.2 ⟨_, mem_placed_iff.2 found, rfl⟩

theorem map_at?_addresses (node : Ast) : node.addresses.map node.at? = node.nodes.map some := by
  rw [addresses, nodes, List.map_map, List.map_map]
  exact List.map_congr_left fun placed member => mem_placed_iff.1 member

theorem nodes_eq (node : Ast) : node.nodes = node.children.flatMap nodes ++ [node] := by
  rw [nodes, placed_eq, List.map_append, Addressed.map_snd_inPlaces]
  rfl

/-! ### Calling back -/

section CallBack

variable {m : Type → Type} [Monad m]

/-- The call for a node. The trees that calls have returned and that no parent has taken up are
kept, the last one first; the node takes up as many of them as it has children. -/
def callBack (f : Ast → m Ast) (returned : List Ast) (node : Ast) : m (List Ast) := do
  let arity := node.children.length
  let result ← f (node.withChildren (returned.take arity).reverse)
  return result :: returned.drop arity

variable [LawfulMonad m]

theorem transformAllM_eq_mapM (f : Ast → m Ast) (items : List Ast) :
    transformAllM f items = items.mapM (transformM f) := by
  induction items with
  | nil => rw [transformAllM, List.mapM_nil]
  | cons item rest ih => rw [transformAllM, List.mapM_cons, ih]

theorem transformM_eq (f : Ast → m Ast) (node : Ast) :
    transformM f node =
      node.children.mapM (transformM f) >>= fun results => f (node.withChildren results) := by
  cases node <;> simp [transformM, children, withChildren, transformAllM_eq_mapM]

/-- After a call for each item, only what holds of as many results as there are items matters. -/
theorem mapM_bind_congr {β : Type} (f : Ast → m Ast) (items : List Ast) {one two : List Ast → m β}
    (same : ∀ results, results.length = items.length → one results = two results) :
    items.mapM f >>= one = items.mapM f >>= two := by
  induction items generalizing one two with
  | nil => simpa using same [] rfl
  | cons item rest ih =>
    simp only [List.mapM_cons, bind_assoc, pure_bind]
    refine bind_congr fun result => ih fun results length => ?_
    exact same (result :: results) (by rw [List.length_cons, List.length_cons, length])

theorem foldlM_callBack_flatMap (f : Ast → m Ast) {items : List Ast}
    (each : ∀ item ∈ items, ∀ returned, item.nodes.foldlM (callBack f) returned =
      transformM f item >>= fun result => pure (result :: returned)) (returned : List Ast) :
    (items.flatMap nodes).foldlM (callBack f) returned =
      items.mapM (transformM f) >>= fun results => pure (results.reverse ++ returned) := by
  induction items generalizing returned with
  | nil => simp
  | cons item rest ih =>
    rw [List.flatMap_cons, List.foldlM_append, each item List.mem_cons_self]
    simp only [List.mapM_cons, bind_assoc, pure_bind, List.reverse_cons, List.append_assoc,
      List.singleton_append]
    exact bind_congr fun result =>
      ih (fun other member => each other (List.mem_cons_of_mem _ member)) (result :: returned)

theorem foldlM_callBack (f : Ast → m Ast) (node : Ast) (returned : List Ast) :
    node.nodes.foldlM (callBack f) returned =
      transformM f node >>= fun result => pure (result :: returned) := by
  induction node using induct generalizing returned with
  | step node ih =>
    rw [nodes_eq, List.foldlM_append, foldlM_callBack_flatMap f ih, transformM_eq]
    simp only [bind_assoc, pure_bind, List.foldlM_cons, List.foldlM_nil, bind_pure]
    refine mapM_bind_congr _ _ fun results length => ?_
    -- The node takes up what was returned last: just the results for its children.
    have taken : (results.reverse ++ returned).take node.children.length = results.reverse := by
      rw [← length, ← List.length_reverse, List.take_left]
    have left : (results.reverse ++ returned).drop node.children.length = returned := by
      rw [← length, ← List.length_reverse, List.drop_left]
    simp only [callBack, taken, left, List.reverse_reverse]

/-- A transformation whose calls give each node back does what they do for the nodes in post-order,
and gives the tree back. -/
theorem transformM_of_kept {f : Ast → m Ast} {act : Ast → m PUnit}
    (kept : ∀ node, f node = act node >>= fun _ => pure node) (node : Ast) :
    transformM f node = node.nodes.forM act >>= fun _ => pure node := by
  have all (items : List Ast) (each : ∀ item ∈ items,
      transformM f item = item.nodes.forM act >>= fun _ => pure item) :
      items.mapM (transformM f) = (items.flatMap nodes).forM act >>= fun _ => pure items := by
    induction items with
    | nil => simp
    | cons item rest ih =>
      rw [List.mapM_cons, each item List.mem_cons_self,
        ih fun other member => each other (List.mem_cons_of_mem _ member), List.flatMap_cons]
      simp [List.forM_append]
  induction node using induct with
  | step node ih =>
    rw [transformM_eq, all _ ih, nodes_eq]
    simp [List.forM_append, kept]

end CallBack

/-- The nodes that a transformation calls back for are those of the tree in post-order. -/
theorem visited_eq (node : Ast) : node.visited = node.nodes := by
  let note (node : Ast) : StateM (List Ast) PUnit := modify (node :: ·)
  have noted (nodes log : List Ast) : ((nodes.forM note).run log).2 = nodes.reverse ++ log := by
    induction nodes generalizing log with
    | nil => rfl
    | cons first rest ih =>
      rw [List.reverse_cons, List.append_assoc]
      exact ih (first :: log)
  calc node.visited
    _ = ((node.nodes.forM note).run []).2.reverse := by
      rw [visited, transformM_of_kept fun _ => rfl]
      rfl
    _ = node.nodes := by rw [noted, List.append_nil, List.reverse_reverse]

end Ast

end SchemaMatch.Syntax
