import SchemaMatch.Proofs.Regex.Frame

/-!
# Reduced forms prefer alike

A sequence in reduced form makes the choice of its terms one after another. So does a choice of
groups, which have nothing in common to be taken out in front, and an optional group.
-/

namespace SchemaMatch.Regex.Term

variable {subject : Subject}

def chain (subject : Subject) : List Term → Arrival → List Arrival
  | [], start => [start]
  | term :: rest, start => (term.arrivals subject start).flatMap (chain subject rest)

theorem chain_append (front back : List Term) (start : Arrival) :
    chain subject (front ++ back) start = (chain subject front start).flatMap (chain subject back) := by
  induction front generalizing start with
  | nil => simp [chain]
  | cons term rest ih =>
    rw [List.cons_append, chain, chain, List.flatMap_assoc]
    exact congrArg (fun f => (term.arrivals subject start).flatMap f) (funext ih)

theorem chain_onto (before : List Captured) (terms : List Term) :
    Keeps before (chain subject terms) := by
  induction terms with
  | nil => exact fun _ => rfl
  | cons term rest ih =>
    intro start
    rw [chain, arrivals_onto subject before term start, flatMap_onto ih, chain]

theorem byPosition_chain (terms : List Term) : Arrival.ByPosition (chain subject terms) :=
  byPosition_of_keeps fun before => chain_onto before terms

theorem chain_single (term : Term) (start : Arrival) :
    chain subject [term] start = term.arrivals subject start :=
  List.flatMap_singleton' _

theorem sameChoice_ofFactors (terms : List Term) (start : Arrival) :
    SameChoice ((ofFactors terms).arrivals subject start) (chain subject terms start) := by
  induction terms generalizing start with
  | nil => exact .refl _
  | cons term rest ih =>
    cases rest with
    | nil =>
      rw [chain_single]
      exact .refl _
    | cons second others =>
      refine (SameChoice.continueWith _ _).trans ?_
      exact (SameChoice.refl _).flatMap ih (byPosition_chain (second :: others))

theorem sameChoice_factors (term : Term) (start : Arrival) :
    SameChoice (chain subject term.factors start) (term.arrivals subject start) := by
  induction term generalizing start with
  | empty => exact .refl _
  | seq first second ih₁ ih₂ =>
    rw [factors, chain_append]
    refine ((ih₁ start).flatMap ih₂ (byPosition_arrivals subject second)).trans ?_
    exact (SameChoice.continueWith _ _).symm
  | _ =>
    rw [factors, chain_single]
    · exact .refl _
    · intro equal
      cases equal
    · intro first second equal
      cases equal

theorem textEnd?_append (front back : List Char) (position : Nat) :
    subject.textEnd? (front ++ back) position =
      (subject.textEnd? front position).bind (subject.textEnd? back) := by
  induction front generalizing position with
  | nil => rfl
  | cons c rest ih =>
    rw [List.cons_append, Subject.textEnd?, Subject.textEnd?]
    split
    · exact ih (position + 1)
    · rfl

/-- Two texts that become one lead where they led one after the other. -/
theorem chain_prepend (term : Term) (rest : List Term) :
    chain subject (prepend term rest) = chain subject (term :: rest) := by
  unfold prepend
  split
  · rename_i text more others
    funext start
    simp only [chain, arrivals, textEnd?_append]
    cases subject.textEnd? text start.position with
    | none => rfl
    | some middle =>
      simp only [Option.bind_some, List.flatMap_cons, List.flatMap_nil, List.append_nil]
      rfl
  · rfl

theorem chain_foldr_prepend (terms : List Term) :
    chain subject (terms.foldr prepend []) = chain subject terms := by
  induction terms with
  | nil => rfl
  | cons term rest ih =>
    rw [List.foldr_cons, chain_prepend]
    funext start
    rw [chain, ih, chain]

theorem sameChoice_flatMap_factors (terms : List Term) (start : Arrival) :
    SameChoice (chain subject (terms.flatMap factors) start) (chain subject terms start) := by
  induction terms generalizing start with
  | nil => exact .refl _
  | cons term rest ih =>
    rw [List.flatMap_cons, chain_append, chain]
    exact (sameChoice_factors term start).flatMap ih (byPosition_chain rest)

theorem sameChoice_sequence (terms : List Term) (start : Arrival) :
    SameChoice ((sequence terms).arrivals subject start) (chain subject terms start) := by
  refine (sameChoice_ofFactors _ start).trans ?_
  rw [chain_foldr_prepend]
  exact sameChoice_flatMap_factors terms start

def IsGroup (term : Term) : Prop := ∃ index sub, term = capture index sub

theorem sharedFactors_of_isGroup {terms : List Term} (groups : ∀ term ∈ terms, term.IsGroup) :
    sharedFactors (terms.map factors) = [] := by
  cases terms with
  | nil => rfl
  | cons term rest =>
    obtain ⟨index, sub, rfl⟩ := groups term List.mem_cons_self
    rfl

theorem flatMap_branches_of_isGroup {terms : List Term}
    (groups : ∀ term ∈ terms, term.IsGroup) : terms.flatMap branches = terms := by
  induction terms with
  | nil => rfl
  | cons term rest ih =>
    obtain ⟨index, sub, rfl⟩ := groups term List.mem_cons_self
    rw [List.flatMap_cons, ih fun term member => groups term (List.mem_cons_of_mem _ member)]
    rfl

theorem joined?_of_isGroup {term : Term} (rest : List Term) (group : term.IsGroup) :
    joined? (term :: rest) = none := by
  obtain ⟨index, sub, rfl⟩ := group
  rfl

theorem oneOf_of_isGroup {terms : List Term} (given : terms ≠ [])
    (groups : ∀ term ∈ terms, term.IsGroup) : oneOf terms = ofBranches terms := by
  simp only [oneOf, flatMap_branches_of_isGroup groups, sharedFactors_of_isGroup groups]
  match terms, given with
  | [term], _ => rfl
  | term :: second :: rest, _ =>
    rw [choice, joined?_of_isGroup _ (groups term List.mem_cons_self), Option.getD_none]
    exact nofun

theorem sameChoice_ofBranches {terms : List Term} (given : terms ≠ []) (start : Arrival) :
    SameChoice ((ofBranches terms).arrivals subject start)
      (terms.flatMap fun term => term.arrivals subject start) := by
  induction terms with
  | nil => exact absurd rfl given
  | cons term rest ih =>
    cases rest with
    | nil =>
      rw [List.flatMap_cons, List.flatMap_nil, List.append_nil]
      exact .refl _
    | cons second others =>
      rw [List.flatMap_cons]
      refine (SameChoice.distinct _).trans ?_
      exact (SameChoice.refl _).append (ih (List.cons_ne_nil _ _))

theorem repeated_optional (sub : Term) : repeated 0 (some 1) true sub = rep 0 (some 1) true sub := by
  simp only [repeated]
  split <;> rfl

theorem indices_optional (sub : Term) :
    (repeated 0 (some 1) true sub).indices = sub.indices := by
  rw [repeated_optional, indices]

theorem sameChoice_optional {sub : Term} (several : sub.oneChar? = none) (start : Arrival) :
    SameChoice ((repeated 0 (some 1) true sub).arrivals subject start)
      (sub.arrivals subject start ++ [start]) := by
  have once : (rep 0 (some 1) true sub).arrivals subject start =
      continueWith (fun arrival => preferMore true (sub.arrivals subject arrival) arrival)
        [start] := by
    simp only [arrivals, several]
    rfl
  rw [repeated_optional, once]
  refine (SameChoice.continueWith _ _).trans ?_
  rw [List.flatMap_cons, List.flatMap_nil, List.append_nil]
  exact .distinct _

end SchemaMatch.Regex.Term
