import SchemaMatch.Proofs.Syntax.Groups
import SchemaMatch.Regex.Meaning

/-!
# The groups of a term

A term keeps the groups of the tree that it is the meaning of, except where nothing is repeated.
Reduced forms take terms apart and put them together again without a new group.
-/

namespace SchemaMatch.Regex

open Syntax
open Unicode (CodeSet)

namespace Term

/-- The indices of the capturing groups of a term. -/
def indices : Term → List Nat
  | rep _ _ _ sub => sub.indices
  | capture index sub => index :: sub.indices
  | seq first second => first.indices ++ second.indices
  | alt first second => first.indices ++ second.indices
  | _ => []

theorem lastGroup_le_iff {term : Term} {bound : Nat} :
    term.lastGroup ≤ bound ↔ ∀ index ∈ term.indices, index ≤ bound := by
  induction term with
  | rep _ _ _ sub ih => exact ih
  | capture index sub ih => rw [lastGroup, Nat.max_le, ih, indices, List.forall_mem_cons]
  | seq first second ih₁ ih₂ => rw [lastGroup, Nat.max_le, ih₁, ih₂, indices, List.forall_mem_append]
  | alt first second ih₁ ih₂ => rw [lastGroup, Nat.max_le, ih₁, ih₂, indices, List.forall_mem_append]
  | _ => simp [lastGroup, indices]

theorem lastGroup_of_indices {term : Term} {count : Nat}
    (numbered : term.indices = List.range' 1 count) : term.lastGroup = count := by
  apply Nat.le_antisymm
  · rw [lastGroup_le_iff, numbered]
    intro index member
    have bounds := List.mem_range'_1.1 member
    omega
  · rcases Nat.eq_zero_or_pos count with rfl | some
    · exact Nat.zero_le _
    · apply lastGroup_le_iff.1 (Nat.le_refl _)
      rw [numbered, List.mem_range'_1]
      omega

theorem indices_ofFactors (terms : List Term) :
    (ofFactors terms).indices = terms.flatMap indices := by
  induction terms with
  | nil => rfl
  | cons term rest ih =>
    cases rest with
    | nil => simp [ofFactors]
    | cons second others =>
      rw [List.flatMap_cons, ← ih]
      rfl

theorem indices_factors (term : Term) : term.factors.flatMap indices = term.indices := by
  induction term with
  | empty => rfl
  | seq first second ih₁ ih₂ => rw [factors, List.flatMap_append, ih₁, ih₂, indices]
  | _ => simp [factors]

theorem indices_prepend (term : Term) (rest : List Term) :
    (prepend term rest).flatMap indices = term.indices ++ rest.flatMap indices := by
  unfold prepend
  split
  · rfl
  · rfl

theorem indices_sequence (terms : List Term) :
    (sequence terms).indices = terms.flatMap indices := by
  have joined (factors : List Term) :
      (factors.foldr prepend []).flatMap indices = factors.flatMap indices := by
    induction factors with
    | nil => rfl
    | cons factor rest ih => rw [List.foldr_cons, indices_prepend, ih, List.flatMap_cons]
  rw [sequence, indices_ofFactors, joined]
  induction terms with
  | nil => rfl
  | cons term rest ih =>
    rw [List.flatMap_cons, List.flatMap_append, indices_factors, ih, List.flatMap_cons]

theorem indices_ofClass (alphabet : Alphabet) (set : CodeSet) :
    (ofClass alphabet set).indices = [] := by
  unfold ofClass
  split
  · rfl
  · split
    · rfl
    · rfl

/-- A repetition in reduced form is nothing, its term, or a repetition of that. -/
theorem repeated_eq (min : Nat) (max : Option Nat) (greedy : Bool) (sub : Term) :
    repeated min max greedy sub = empty ∨ repeated min max greedy sub = sub ∨
      ∃ least most, repeated min max greedy sub = rep least most greedy sub := by
  simp only [repeated]
  generalize (if sub.maxLength == some 0 then _ else _ : Nat × Option Nat) = bounds
  split
  · exact .inl rfl
  · split
    · exact .inr (.inl rfl)
    · exact .inr (.inr ⟨_, _, rfl⟩)

theorem mem_indices_of_repeated {min : Nat} {max : Option Nat} {greedy : Bool} {sub : Term}
    {index : Nat} (member : index ∈ (repeated min max greedy sub).indices) :
    index ∈ sub.indices := by
  rcases repeated_eq min max greedy sub with none | once | ⟨least, most, more⟩
  · rw [none] at member
    cases member
  · rwa [once] at member
  · rwa [more] at member

theorem indices_ofBranches (terms : List Term) :
    (ofBranches terms).indices = terms.flatMap indices := by
  induction terms with
  | nil => rfl
  | cons term rest ih =>
    cases rest with
    | nil => simp [ofBranches]
    | cons second others =>
      rw [List.flatMap_cons, ← ih]
      rfl

theorem indices_branches (term : Term) : term.branches.flatMap indices = term.indices := by
  induction term with
  | alt first second ih₁ ih₂ => rw [branches, List.flatMap_append, ih₁, ih₂, indices]
  | _ => simp [branches]

theorem mem_indices_of_choice {terms : List Term} {index : Nat}
    (member : index ∈ (choice terms).indices) : index ∈ terms.flatMap indices := by
  unfold choice at member
  split at member
  · simpa using member
  · cases joins : joined? terms with
    | none =>
      rw [joins, Option.getD_none, indices_ofBranches] at member
      exact member
    | some found =>
      obtain ⟨sets, _, rfl⟩ := Option.map_eq_some_iff.1 joins
      rw [joins, Option.getD_some, indices_ofClass] at member
      cases member

theorem mem_of_mem_commonPrefix {term : Term} {some more : List Term}
    (member : term ∈ commonPrefix some more) : term ∈ some := by
  induction some generalizing more with
  | nil => cases member
  | cons first rest ih =>
    cases more with
    | nil => cases member
    | cons second others =>
      unfold commonPrefix at member
      split at member
      · rcases List.mem_cons.1 member with rfl | member
        · exact List.mem_cons_self
        · exact List.mem_cons_of_mem _ (ih member)
      · cases member

theorem mem_of_mem_sharedFactors {term : Term} {split : List (List Term)}
    (member : term ∈ sharedFactors split) : term ∈ split.flatten := by
  cases split with
  | nil => cases member
  | cons first rest =>
    have kept (others : List (List Term)) (shared : List Term)
        (member : term ∈ others.foldl commonPrefix shared) : term ∈ shared := by
      induction others generalizing shared with
      | nil => exact member
      | cons other others ih => exact mem_of_mem_commonPrefix (ih _ member)
    simp only [sharedFactors] at member
    split at member
    · exact List.mem_append_left _ (kept rest first member)
    · cases member

theorem mem_indices_of_oneOf {terms : List Term} {index : Nat}
    (member : index ∈ (oneOf terms).indices) : index ∈ terms.flatMap indices := by
  have whole : (terms.flatMap branches).flatMap indices = terms.flatMap indices := by
    rw [List.flatMap_assoc]
    exact congrArg (fun f => terms.flatMap f) (funext indices_branches)
  rw [← whole]
  have part {factor : Term} (inside : factor ∈ ((terms.flatMap branches).map factors).flatten)
      (found : index ∈ factor.indices) : index ∈ (terms.flatMap branches).flatMap indices := by
    obtain ⟨split, among, inside⟩ := List.mem_flatten.1 inside
    obtain ⟨branch, given, rfl⟩ := List.mem_map.1 among
    refine List.mem_flatMap.2 ⟨branch, given, ?_⟩
    rw [← indices_factors]
    exact List.mem_flatMap.2 ⟨factor, inside, found⟩
  unfold oneOf at member
  dsimp only at member
  split at member
  · rename_i shared
    rw [indices_sequence, List.flatMap_append, List.mem_append, ← shared] at member
    rcases member with member | member
    · obtain ⟨factor, inside, found⟩ := List.mem_flatMap.1 member
      exact part (mem_of_mem_sharedFactors inside) found
    · rw [List.flatMap_cons, List.flatMap_nil, List.append_nil] at member
      have member := mem_indices_of_choice member
      rw [List.flatMap_assoc, funext indices_branches] at member
      obtain ⟨rest, among, found⟩ := List.mem_flatMap.1 member
      obtain ⟨factors, given, rfl⟩ := List.mem_map.1 among
      rw [indices_sequence] at found
      obtain ⟨factor, dropped, found⟩ := List.mem_flatMap.1 found
      exact part (List.mem_flatten.2 ⟨factors, given, List.mem_of_mem_drop dropped⟩) found
  · exact mem_indices_of_choice member

end Term

theorem Flags.indices_of_literal {flags : Flags} {literal : Literal} {term : Term}
    (success : flags.literal literal = .ok term) : term.indices = [] := by
  simp only [Flags.literal] at success
  split at success
  · cases success
  · split at success
    · rw [← Except.ok.inj success, Term.indices_ofClass]
    · rw [← Except.ok.inj success]
      rfl

theorem Flags.indices_of_dot {flags : Flags} {span : Span} {term : Term}
    (success : flags.dot span = .ok term) : term.indices = [] := by
  simp only [Flags.dot] at success
  split at success
  · cases success
  · split at success
    · rw [← Except.ok.inj success]
      rfl
    · split at success
      · rw [← Except.ok.inj success]
        rfl
      · rw [← Except.ok.inj success]
        rfl

theorem mem_indices_of_grouped {term : Term} {kind : GroupKind} {index : Nat}
    {groups : List Group} (inside : ∀ index ∈ term.indices, index ∈ Group.indicesAll groups)
    (member : index ∈ (grouped term kind).indices) :
    index ∈ Group.indicesAll (kind.around groups) := by
  have around (own : Nat) (member : index ∈ own :: term.indices) :
      index ∈ Group.indicesAll [.node own groups] := by
    rcases List.mem_cons.1 member with rfl | member
    · exact List.mem_cons_self
    · exact List.mem_append_left _ (List.mem_cons_of_mem _ (inside index member))
  cases kind with
  | captureIndex own => exact around own member
  | captureName startsWithP name => exact around name.index member
  | nonCapturing list => exact inside index member

mutual

theorem indices_of_meaning {flags after : Flags} {term : Term} : (ast : Ast) →
    meaning flags ast = .ok (term, after) →
    ∀ index ∈ term.indices, index ∈ Group.indicesAll ast.groups
  | .empty _, success => by
    cases success
    exact nofun
  | .flags _ _, success => by
    cases success
    exact nofun
  | .literal _, success => by
    obtain ⟨found, read, equal⟩ := bind_eq_ok_iff.1 success
    cases equal
    rw [Flags.indices_of_literal read]
    exact nofun
  | .dot _, success => by
    obtain ⟨found, read, equal⟩ := bind_eq_ok_iff.1 success
    cases equal
    rw [Flags.indices_of_dot read]
    exact nofun
  | .assertion _ _, success => by
    cases success
    exact nofun
  | .property _, success => by
    obtain ⟨found, read, equal⟩ := bind_eq_ok_iff.1 success
    cases equal
    rw [Term.indices_ofClass]
    exact nofun
  | .perl _, success => by
    obtain ⟨found, read, equal⟩ := bind_eq_ok_iff.1 success
    cases equal
    rw [Term.indices_ofClass]
    exact nofun
  | .bracketed _ _ _, success => by
    obtain ⟨set, read, success⟩ := bind_eq_ok_iff.1 success
    obtain ⟨folded, closes, equal⟩ := bind_eq_ok_iff.1 success
    cases equal
    rw [Term.indices_ofClass]
    exact nofun
  | .repetition _ _ _ sub, success => by
    obtain ⟨⟨found, later⟩, read, equal⟩ := bind_eq_ok_iff.1 success
    cases equal
    intro index member
    exact indices_of_meaning sub read index (Term.mem_indices_of_repeated member)
  | .group _ kind sub, success => by
    obtain ⟨⟨found, later⟩, read, equal⟩ := bind_eq_ok_iff.1 success
    cases equal
    intro index member
    exact mem_indices_of_grouped (indices_of_meaning sub read) member
  | .alternation _ branches, success => by
    obtain ⟨⟨found, later⟩, read, equal⟩ := bind_eq_ok_iff.1 success
    cases equal
    intro index member
    exact indices_of_meanings branches read index (Term.mem_indices_of_oneOf member)
  | .concat _ items, success => by
    obtain ⟨⟨found, later⟩, read, equal⟩ := bind_eq_ok_iff.1 success
    cases equal
    intro index member
    rw [Term.indices_sequence] at member
    exact indices_of_meanings items read index member

theorem indices_of_meanings {flags after : Flags} {terms : List Term} : (items : List Ast) →
    meanings flags items = .ok (terms, after) →
    ∀ index ∈ terms.flatMap Term.indices, index ∈ Group.indicesAll (Ast.groupsAll items)
  | [], success => by
    cases success
    exact nofun
  | item :: rest, success => by
    obtain ⟨⟨first, middle⟩, read, success⟩ := bind_eq_ok_iff.1 success
    obtain ⟨⟨others, last⟩, reads, equal⟩ := bind_eq_ok_iff.1 success
    cases equal
    intro index member
    rw [Ast.groupsAll, Group.indicesAll_append, List.mem_append]
    rcases List.mem_append.1 member with member | member
    · exact .inl (indices_of_meaning item read index member)
    · exact .inr (indices_of_meanings rest reads index member)

end

/-- A tree that captures nothing means a term that captures nothing. -/
theorem indices_eq_nil_of_meaning {flags after : Flags} {ast : Ast} {term : Term}
    (plain : ast.groups = []) (success : meaning flags ast = .ok (term, after)) :
    term.indices = [] := by
  have inside := indices_of_meaning ast success
  rw [plain] at inside
  exact List.eq_nil_iff_forall_not_mem.2 fun index member =>
    List.not_mem_nil (inside index member)

end SchemaMatch.Regex
