import SchemaMatch.Proofs.Expr.Composed
import SchemaMatch.Proofs.Expr.Ways
import SchemaMatch.Proofs.Regex.Meaning
import SchemaMatch.Proofs.Regex.Reduced

/-!
# The meaning of a composed pattern

The syntax tree of a composed pattern means a term that is put together as the tree is: the flags of
each fragment end with it. The term prefers what the tree says, and has the groups of the tree.
-/

namespace SchemaMatch

open Syntax

namespace Regex.Term

def joined : List Term → Term
  | [] => .empty
  | [term] => term
  | terms => .sequence terms

def chosen : List Term → Term
  | [] => .empty
  | [term] => term
  | terms => .oneOf terms

theorem indices_joined (terms : List Term) : (joined terms).indices = terms.flatMap indices := by
  match terms with
  | [] => rfl
  | [term] => simp [joined]
  | one :: two :: rest => exact indices_sequence (one :: two :: rest)

theorem indices_chosen {terms : List Term} (groups : ∀ term ∈ terms, term.IsGroup) :
    (chosen terms).indices = terms.flatMap indices := by
  match terms with
  | [] => rfl
  | [term] => simp [chosen]
  | one :: two :: rest =>
    change (oneOf (one :: two :: rest)).indices = _
    rw [oneOf_of_isGroup (List.cons_ne_nil _ _) groups, indices_ofBranches]

theorem sameChoice_joined (subject : Subject) (terms : List Term) (start : Arrival) :
    SameChoice ((joined terms).arrivals subject start) (chain subject terms start) := by
  match terms with
  | [] => exact .refl _
  | [term] =>
    rw [chain_single]
    exact .refl _
  | one :: two :: rest => exact sameChoice_sequence (one :: two :: rest) start

theorem sameChoice_chosen (subject : Subject) {terms : List Term} (given : terms ≠ [])
    (groups : ∀ term ∈ terms, term.IsGroup) (start : Arrival) :
    SameChoice ((chosen terms).arrivals subject start)
      (terms.flatMap fun term => term.arrivals subject start) := by
  match terms with
  | [] => exact absurd rfl given
  | [term] =>
    rw [List.flatMap_cons, List.flatMap_nil, List.append_nil]
    exact .refl _
  | one :: two :: rest =>
    change SameChoice ((oneOf (one :: two :: rest)).arrivals subject start) _
    rw [oneOf_of_isGroup given groups]
    exact sameChoice_ofBranches given start

end Regex.Term

namespace Regex

variable {flags after : Flags}

theorem meanings_append {front back : List Ast} {middle last : Flags} {terms others : List Term}
    (one : meanings flags front = .ok (terms, middle))
    (two : meanings middle back = .ok (others, last)) :
    meanings flags (front ++ back) = .ok (terms ++ others, last) := by
  induction front generalizing flags terms with
  | nil =>
    cases one
    exact two
  | cons item rest ih =>
    obtain ⟨⟨first, between⟩, read, one⟩ := bind_eq_ok_iff.1 one
    obtain ⟨⟨more, ends⟩, reads, equal⟩ := bind_eq_ok_iff.1 one
    cases equal
    have joined := ih reads
    simp only [List.cons_append, meanings, read, joined, ok_bind]

theorem length_of_meanings {items : List Ast} {terms : List Term}
    (success : meanings flags items = .ok (terms, after)) : items.length = terms.length := by
  induction items generalizing flags terms with
  | nil =>
    cases success
    rfl
  | cons item rest ih =>
    obtain ⟨⟨first, middle⟩, _, success⟩ := bind_eq_ok_iff.1 success
    obtain ⟨⟨others, last⟩, reads, equal⟩ := bind_eq_ok_iff.1 success
    cases equal
    rw [List.length_cons, List.length_cons, ih reads]

theorem meaning_of_meanings_single {item : Ast} {term : Term}
    (success : meanings flags [item] = .ok ([term], after)) :
    meaning flags item = .ok (term, after) := by
  obtain ⟨⟨first, between⟩, read, rest⟩ := bind_eq_ok_iff.1 success
  cases rest
  exact read

theorem meaning_ofItems {items : List Ast} {terms : List Term}
    (success : meanings flags items = .ok (terms, after)) :
    meaning flags (Ast.ofItems items) = .ok (.joined terms, after) := by
  match items, terms, length_of_meanings success with
  | [], [], _ =>
    cases success
    rfl
  | [item], [term], _ => exact meaning_of_meanings_single success
  | one :: two :: rest, first :: second :: others, _ =>
    simp only [Ast.ofItems, meaning, success, ok_bind]
    rfl

theorem meaning_ofBranches {branches : List Ast} {terms : List Term}
    (success : meanings flags branches = .ok (terms, after)) :
    meaning flags (Ast.ofBranches branches) = .ok (.chosen terms, after) := by
  match branches, terms, length_of_meanings success with
  | [], [], _ =>
    cases success
    rfl
  | [branch], [term], _ => exact meaning_of_meanings_single success
  | one :: two :: rest, first :: second :: others, _ =>
    simp only [Ast.ofBranches, meaning, success, ok_bind]
    rfl

end Regex

namespace Expr

open Regex

variable {options : Options}

mutual

def terms (options : Options) : Expr → List Term
  | fragment text => if text.isEmpty then [] else [fragmentTerm options text]
  | concat parts => termsAll options parts
  | capture slot _ expr =>
    if slot == 0 then terms options expr else [.capture slot (.joined (terms options expr))]
  | optional expr => [.repeated 0 (some 1) true (.joined (terms options expr))]
  | alternation parts => [.chosen (branchTerms options parts)]

def termsAll (options : Options) : List Expr → List Term
  | [] => []
  | expr :: rest => terms options expr ++ termsAll options rest

def branchTerms (options : Options) : List Expr → List Term
  | [] => []
  | expr :: rest => .joined (terms options expr) :: branchTerms options rest

end

theorem fragmentTerm_of_parse {text : String} {term : Term}
    (success : Term.parse options text = .ok term) : fragmentTerm options text = term := by
  rw [fragmentTerm, success]

/-- A fragment alone in a plain group means what it means when it is compiled alone. -/
theorem meaning_fragment {text : String} {term : Term}
    (success : Term.parse options text = .ok term) :
    meaning (Flags.ofOptions options) (.group .nowhere .plain (bareTree options text)) =
      .ok (fragmentTerm options text, Flags.ofOptions options) := by
  obtain ⟨ast, parsed, success⟩ := bind_eq_ok_iff.1 success
  obtain ⟨⟨found, after⟩, means, equal⟩ := bind_eq_ok_iff.1 success
  cases equal
  have alone : Term.parse options text = .ok term := by
    simp only [Term.parse, parsed, means, ok_bind]
  have bare := ((sameSuccess_meaning_bare (Flags.ofOptions options) ast).ok_iff _).2 means
  rw [fragmentTerm_of_parse alone, bareTree_of_parse parsed]
  change (meaning (Flags.ofOptions options) ast.bare >>= fun _ => _) = _
  rw [bare]
  rfl

theorem meaning_plain {flags after : Flags} {sub : Ast} {term : Term}
    (success : meaning flags sub = .ok (term, after)) :
    meaning flags (.group .nowhere .plain sub) = .ok (term, flags) := by
  change (meaning flags sub >>= fun _ => _) = _
  rw [success]
  rfl

theorem meaning_optional {flags : Flags} {sub : Ast} {term : Term} {greedy : Bool}
    (success : meaning flags sub = .ok (term, flags))
    (prefers : (greedy != flags.swapGreed) = true) :
    meaning flags (.repetition .nowhere .zeroOrOne greedy sub) =
      .ok (.repeated 0 (some 1) true term, flags) := by
  change (meaning flags sub >>= fun _ => _) = _
  rw [success]
  change Except.ok (Term.repeated 0 (some 1) (greedy != flags.swapGreed) term, flags) = _
  rw [prefers]

theorem meanings_single {flags after : Flags} {item : Ast} {term : Term}
    (success : meaning flags item = .ok (term, after)) :
    meanings flags [item] = .ok ([term], after) := by
  simp only [meanings, success, ok_bind]

mutual

theorem meanings_items : (expr : Expr) → expr.OnNodes (IsSound options) →
    meanings (Flags.ofOptions options) (expr.items options) =
      .ok (expr.terms options, Flags.ofOptions options)
  | fragment text, sound => by
    obtain ⟨_, term, success⟩ := onNodes_fragment.1 sound
    simp only [items, terms]
    split
    · rfl
    · exact meanings_single (meaning_fragment success)
  | concat parts, sound => meanings_itemsAll parts (onNodes_concat.1 sound).2
  | capture slot _ expr, sound => by
    have inside := meanings_items expr (onNodes_capture.1 sound).2
    simp only [items, terms]
    split
    · exact inside
    · refine meanings_single ?_
      simp only [meaning, groupFlags, meaning_ofItems inside, ok_bind]
      rfl
  | optional expr, sound => by
    have inside := meanings_items expr (onNodes_optional.1 sound).2
    have once := meaning_plain (meaning_ofItems inside)
    refine meanings_single (meaning_optional once ?_)
    change ((!options.swapGreed) != options.swapGreed) = true
    cases options.swapGreed <;> rfl
  | alternation parts, sound => by
    have inside := meanings_branchTrees parts (onNodes_alternation.1 sound).2
    exact meanings_single (meaning_plain (meaning_ofBranches inside))

theorem meanings_itemsAll : (exprs : List Expr) → OnAllNodes (IsSound options) exprs →
    meanings (Flags.ofOptions options) (itemsAll options exprs) =
      .ok (termsAll options exprs, Flags.ofOptions options)
  | [], _ => rfl
  | expr :: rest, sound => by
    obtain ⟨here, there⟩ := onAllNodes_cons.1 sound
    exact meanings_append (meanings_items expr here) (meanings_itemsAll rest there)

theorem meanings_branchTrees : (exprs : List Expr) → OnAllNodes (IsSound options) exprs →
    meanings (Flags.ofOptions options) (branchTrees options exprs) =
      .ok (branchTerms options exprs, Flags.ofOptions options)
  | [], _ => rfl
  | expr :: rest, sound => by
    obtain ⟨here, there⟩ := onAllNodes_cons.1 sound
    have first := meanings_single (meaning_ofItems (meanings_items expr here))
    exact meanings_append first (meanings_branchTrees rest there)

end

/-- The term of a self-contained fragment captures nothing. -/
theorem indices_fragmentTerm {text : String} (sound : IsSound options (fragment text)) :
    (fragmentTerm options text).indices = [] := by
  obtain ⟨⟨ast, parsed, plain, _⟩, term, success⟩ := sound
  obtain ⟨found, same, means⟩ := bind_eq_ok_iff.1 success
  rw [parsed] at same
  cases same
  obtain ⟨⟨inner, after⟩, means, equal⟩ := bind_eq_ok_iff.1 means
  cases equal
  rw [fragmentTerm_of_parse success, indices_eq_nil_of_meaning plain means]

theorem isGroup_of_mem_branchTerms {first next : Nat} {exprs : List Expr}
    (numbered : NumberedAll first exprs next)
    (captures : ∀ expr ∈ exprs, expr.capture?.isSome = true) :
    ∀ term ∈ branchTerms options exprs, term.IsGroup := by
  induction exprs generalizing first with
  | nil => exact nofun
  | cons expr rest ih =>
    obtain ⟨middle, here, others⟩ := numbered
    intro term member
    rcases List.mem_cons.1 member with rfl | member
    · have encloses := captures expr List.mem_cons_self
      cases expr with
      | capture slot name sub =>
        obtain ⟨_, inside, _⟩ := here
        simp only [terms, beq_iff_eq, inside, if_false]
        exact ⟨slot, _, rfl⟩
      | fragment _ => cases encloses
      | concat _ => cases encloses
      | optional _ => cases encloses
      | alternation _ => cases encloses
    · exact ih others (fun other among => captures other (List.mem_cons_of_mem _ among)) term member

mutual

theorem indices_terms {first next : Nat} : (expr : Expr) → expr.OnNodes (IsSound options) →
    Numbered first expr next →
    (expr.terms options).flatMap Term.indices = Group.indicesAll expr.groups
  | fragment text, sound, _ => by
    have plain := indices_fragmentTerm (onNodes_fragment.1 sound)
    simp only [terms, groups]
    split
    · rfl
    · rw [List.flatMap_cons, plain]
      rfl
  | concat parts, sound, numbered => indices_termsAll parts (onNodes_concat.1 sound).2 numbered
  | capture slot _ expr, sound, numbered => by
    obtain ⟨_, given, numbered⟩ := numbered
    have inside := indices_terms expr (onNodes_capture.1 sound).2 numbered
    simp only [terms, groups, beq_iff_eq, given, if_false, List.flatMap_cons, List.flatMap_nil,
      Term.indices, Term.indices_joined, inside, Group.indicesAll, Group.indices]
  | optional expr, sound, numbered => by
    have inside := indices_terms expr (onNodes_optional.1 sound).2 numbered
    rw [terms, List.flatMap_cons, List.flatMap_nil, List.append_nil, Term.indices_optional,
      Term.indices_joined, inside, groups]
  | alternation parts, sound, numbered => by
    obtain ⟨captures, every⟩ := onNodes_alternation.1 sound
    have inside := indices_branchTerms parts every numbered
    rw [terms, List.flatMap_cons, List.flatMap_nil, List.append_nil,
      Term.indices_chosen (isGroup_of_mem_branchTerms numbered captures), inside, groups]

theorem indices_termsAll {first next : Nat} : (exprs : List Expr) →
    OnAllNodes (IsSound options) exprs → NumberedAll first exprs next →
    (termsAll options exprs).flatMap Term.indices = Group.indicesAll (groupsAll exprs)
  | [], _, _ => rfl
  | expr :: rest, sound, numbered => by
    obtain ⟨middle, numbered, others⟩ := numbered
    obtain ⟨here, there⟩ := onAllNodes_cons.1 sound
    rw [termsAll, List.flatMap_append, indices_terms expr here numbered,
      indices_termsAll rest there others, groupsAll, Group.indicesAll_append]

theorem indices_branchTerms {first next : Nat} : (exprs : List Expr) →
    OnAllNodes (IsSound options) exprs → NumberedAll first exprs next →
    (branchTerms options exprs).flatMap Term.indices = Group.indicesAll (groupsAll exprs)
  | [], _, _ => rfl
  | expr :: rest, sound, numbered => by
    obtain ⟨middle, numbered, others⟩ := numbered
    obtain ⟨here, there⟩ := onAllNodes_cons.1 sound
    rw [branchTerms, List.flatMap_cons, Term.indices_joined, indices_terms expr here numbered,
      indices_branchTerms rest there others, groupsAll, Group.indicesAll_append]

end

theorem oneChar?_of_isEnclosed {first next : Nat} {expr : Expr} (enclosed : expr.isEnclosed = true)
    (sound : expr.OnNodes (IsSound options)) (numbered : Numbered first expr next) :
    (Term.joined (expr.terms options)).oneChar? = none := by
  cases expr with
  | capture slot name sub =>
    obtain ⟨_, inside, _⟩ := numbered
    simp only [terms, beq_iff_eq, inside, if_false]
    rfl
  | alternation parts =>
    obtain ⟨captures, _⟩ := onNodes_alternation.1 sound
    have groups : ∀ term ∈ branchTerms options parts, term.IsGroup :=
      isGroup_of_mem_branchTerms numbered captures
    change (Term.chosen (branchTerms options parts)).oneChar? = none
    match branchTerms options parts, groups with
    | [], _ => rfl
    | [term], groups =>
      obtain ⟨index, sub, rfl⟩ := groups term List.mem_cons_self
      rfl
    | one :: two :: rest, groups =>
      change (Term.oneOf (one :: two :: rest)).oneChar? = none
      rw [Term.oneOf_of_isGroup (List.cons_ne_nil _ _) groups]
      rfl
  | fragment _ => cases enclosed
  | concat _ => cases enclosed
  | optional _ => cases enclosed

theorem branchTerms_ne_nil {parts : List Expr} (given : parts ≠ []) :
    branchTerms options parts ≠ [] := by
  cases parts with
  | nil => exact absurd rfl given
  | cons expr rest => exact List.cons_ne_nil _ _

/-- The empty fragment matches nothing but the empty text. -/
theorem fragmentTerm_empty (options : Options) : fragmentTerm options "" = .empty := rfl

mutual

theorem sameChoice_ways (subject : Subject) {first next : Nat} : (expr : Expr) →
    expr.OnNodes (IsSound options) → expr.OnNodes HasBranches → Numbered first expr next →
    (start : Arrival) →
    SameChoice (expr.ways options subject start)
      (Term.chain subject (expr.terms options) start)
  | fragment text, sound, _, _, start => by
    have plain := indices_fragmentTerm (onNodes_fragment.1 sound)
    simp only [ways, terms]
    split
    · rename_i empty
      rw [String.isEmpty_iff.1 empty, fragmentTerm_empty]
      exact .refl _
    · rw [Term.chain_single, Term.arrivals_eq_map subject plain start]
      exact .refl _
  | concat parts, sound, given, numbered, start =>
    sameChoice_waysAll subject parts (onNodes_concat.1 sound).2 (onNodes_concat.1 given).2
      numbered start
  | capture slot _ expr, sound, given, numbered, start => by
    obtain ⟨_, inside, numbered⟩ := numbered
    have same := sameChoice_ways subject expr (onNodes_capture.1 sound).2
      (onNodes_capture.1 given).2 numbered start
    have sub := same.trans (Term.sameChoice_joined subject _ start).symm
    simp only [ways, terms, beq_iff_eq, inside, if_false, Term.chain_single, Term.arrivals]
    exact sub.map fun _ => rfl
  | optional expr, sound, given, numbered, start => by
    obtain ⟨enclosed, sound⟩ := onNodes_optional.1 sound
    have same := sameChoice_ways subject expr sound (onNodes_optional.1 given).2 numbered start
    have sub := same.trans (Term.sameChoice_joined subject _ start).symm
    have several := oneChar?_of_isEnclosed enclosed sound numbered
    rw [ways, terms, Term.chain_single]
    exact (sub.append (.refl _)).trans (Term.sameChoice_optional several start).symm
  | alternation parts, sound, given, numbered, start => by
    obtain ⟨captures, every⟩ := onNodes_alternation.1 sound
    obtain ⟨some, inside⟩ := onNodes_alternation.1 given
    have groups : ∀ term ∈ branchTerms options parts, term.IsGroup :=
      isGroup_of_mem_branchTerms numbered captures
    rw [ways, terms, Term.chain_single]
    exact (sameChoice_waysAny subject parts every inside numbered start).trans
      (Term.sameChoice_chosen subject (branchTerms_ne_nil some) groups start).symm

theorem sameChoice_waysAll (subject : Subject) {first next : Nat} : (exprs : List Expr) →
    OnAllNodes (IsSound options) exprs → OnAllNodes HasBranches exprs →
    NumberedAll first exprs next → (start : Arrival) →
    SameChoice (waysAll options subject exprs start)
      (Term.chain subject (termsAll options exprs) start)
  | [], _, _, _, _ => .refl _
  | expr :: rest, sound, given, numbered, start => by
    obtain ⟨middle, numbered, others⟩ := numbered
    obtain ⟨here, there⟩ := onAllNodes_cons.1 sound
    obtain ⟨some, more⟩ := onAllNodes_cons.1 given
    rw [waysAll, termsAll, Term.chain_append]
    exact (sameChoice_ways subject expr here some numbered start).flatMap
      (sameChoice_waysAll subject rest there more others) (Term.byPosition_chain _)

theorem sameChoice_waysAny (subject : Subject) {first next : Nat} : (exprs : List Expr) →
    OnAllNodes (IsSound options) exprs → OnAllNodes HasBranches exprs →
    NumberedAll first exprs next → (start : Arrival) →
    SameChoice (waysAny options subject exprs start)
      ((branchTerms options exprs).flatMap fun term => term.arrivals subject start)
  | [], _, _, _, _ => .refl _
  | expr :: rest, sound, given, numbered, start => by
    obtain ⟨middle, numbered, others⟩ := numbered
    obtain ⟨here, there⟩ := onAllNodes_cons.1 sound
    obtain ⟨some, more⟩ := onAllNodes_cons.1 given
    have same := sameChoice_ways subject expr here some numbered start
    rw [waysAny, branchTerms, List.flatMap_cons]
    exact (same.trans (Term.sameChoice_joined subject _ start).symm).append
      (sameChoice_waysAny subject rest there more others start)

end

/-- A composed pattern reads with the groups of its tree and means its terms, or is too deep. -/
theorem parse_rendered {exprs : List Expr} {next : Nat} (name : String)
    (sound : OnAllNodes (IsSound options) exprs) (numbered : NumberedAll 1 exprs next) :
    (∃ ast, Ast.parse options ((capture 0 name (concat exprs)).renderWith options.swapGreed) =
        .ok ast ∧ ast.groups = groupsAll exprs ∧
      Term.parse options ((capture 0 name (concat exprs)).renderWith options.swapGreed) =
        .ok (.joined (termsAll options exprs))) ∨
    ∃ span, Ast.parse options ((capture 0 name (concat exprs)).renderWith options.swapGreed) =
      .error ⟨.nestLimitExceeded options.nestLimit, span, none⟩ := by
  rcases read_rendered name numbered sound with ⟨ast, parsed, bare⟩ | deep
  · left
    have means := meaning_ofItems (meanings_itemsAll exprs sound)
    rw [← bare] at means
    have means := ((sameSuccess_meaning_bare _ ast).ok_iff _).1 means
    refine ⟨ast, parsed, ?_, ?_⟩
    · rw [← Ast.groups_bare, bare, groups_ofItems, groups_itemsAll exprs sound]
    · simp only [Term.parse, parsed, means, ok_bind]
  · exact .inr deep

end Expr

end SchemaMatch
