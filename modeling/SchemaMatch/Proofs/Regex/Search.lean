import SchemaMatch.Proofs.Regex.Start

/-!
# What a search finds

A search tries fewer positions than there are, and misses no match by it: the first match of a text
is the one from the first position that has any, and each match that it reports is one from the
position where it starts.
-/

namespace SchemaMatch.Regex

theorem Search.matchAt?_start {subject : Subject} {term : Term} {position : Nat}
    (inside : position ≤ subject.size) :
    (start subject term).matchAt? position =
      (term.matchAt? subject position).map fun arrival => (position, arrival) := by
  cases tried : (start subject term).starts.has position with
  | true =>
    rw [matchAt?, if_pos tried]
    rfl
  | false =>
    rw [matchAt?, if_neg (by rw [tried]; exact Bool.false_ne_true)]
    cases found : term.matchAt? subject position with
    | none => rfl
    | some arrival =>
      have possible := Term.possibleStarts_of_matchAt? inside found
      exact absurd (tried.symm.trans possible) Bool.false_ne_true

theorem Search.matchAmong?_eq_findSome? (search : Search) (count position : Nat) :
    search.matchAmong? count position =
      (List.range' position count).findSome? search.matchAt? := by
  induction count generalizing position with
  | zero => rfl
  | succ count ih =>
    rw [matchAmong?, List.range'_succ, List.findSome?_cons, ih]
    cases search.matchAt? position <;> rfl

theorem findSome?_congr {α β : Type} {f g : α → Option β} {items : List α}
    (same : ∀ item ∈ items, f item = g item) : items.findSome? f = items.findSome? g := by
  induction items with
  | nil => rfl
  | cons first rest ih =>
    rw [List.findSome?_cons, List.findSome?_cons, same first List.mem_cons_self,
      ih fun item member => same item (List.mem_cons_of_mem _ member)]

theorem Term.firstMatch?_eq_findSome? (subject : Subject) (term : Term) :
    term.firstMatch? subject = (List.range (subject.size + 1)).findSome? fun position =>
      (term.matchAt? subject position).map fun arrival => (position, arrival) := by
  rw [firstMatch?, Search.matchFrom?, Search.matchAmong?_eq_findSome?, List.range_eq_range']
  refine findSome?_congr fun position member => Search.matchAt?_start ?_
  have bound := List.mem_range'_1.1 member
  change _ ∧ position < 0 + (subject.size + 1 - 0) at bound
  omega

/-- A match starts at a position of the text and is the preferred one from there. -/
structure Term.IsMatch (subject : Subject) (term : Term) (found : Nat × Arrival) : Prop where
  inside : found.1 ≤ subject.size
  preferred : term.matchAt? subject found.1 = some found.2

variable {subject : Subject} {term : Term}

theorem isMatch_of_matchFrom? {position : Nat} {found : Nat × Arrival}
    (success : (Search.start subject term).matchFrom? position = some found) :
    term.IsMatch subject found := by
  rw [Search.matchFrom?, Search.matchAmong?_eq_findSome?] at success
  obtain ⟨start, member, matched⟩ := List.exists_of_findSome?_eq_some success
  have bound : start ≤ subject.size := by
    have bounds := List.mem_range'_1.1 member
    change _ ∧ start < position + (subject.size + 1 - position) at bounds
    omega
  rw [Search.matchAt?_start bound] at matched
  obtain ⟨arrival, preferred, equal⟩ := Option.map_eq_some_iff.1 matched
  cases equal
  exact ⟨bound, preferred⟩

theorem Term.isMatch_of_firstMatch? {found : Nat × Arrival}
    (success : term.firstMatch? subject = some found) : term.IsMatch subject found :=
  isMatch_of_matchFrom? success

theorem Search.isMatch_of_mem_matchesFrom (bound : Nat) {position : Nat} {previous : Option Nat}
    {found : Nat × Arrival}
    (member : found ∈ (start subject term).matchesFrom bound position previous) :
    term.IsMatch subject found := by
  induction bound generalizing position previous with
  | zero => cases member
  | succ bound ih =>
    rw [matchesFrom] at member
    split at member
    · cases member
    · rename_i first arrival here
      split at member
      · split at member
        · cases member
        · rename_i second later there
          rcases List.mem_cons.1 member with rfl | member
          · exact isMatch_of_matchFrom? there
          · exact ih member
      · rcases List.mem_cons.1 member with rfl | member
        · exact isMatch_of_matchFrom? here
        · exact ih member

theorem Term.isMatch_of_mem_allMatches {found : Nat × Arrival}
    (member : found ∈ term.allMatches subject) : term.IsMatch subject found :=
  Search.isMatch_of_mem_matchesFrom _ member

end SchemaMatch.Regex
