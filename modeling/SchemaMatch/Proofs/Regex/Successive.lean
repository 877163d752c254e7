import SchemaMatch.Proofs.Regex.Passage
import SchemaMatch.Proofs.Regex.Search
import Mathlib.Data.List.Nodup
import Mathlib.Data.List.Perm.Subperm

/-!
# Successive matches

Matches that follow one another are found without a bound: each is the leftmost one that does not
start before the end of the one before it and is not empty there, and the last one is followed by
none. The main statement is `Term.succession_allMatches`. So they start at later and later
positions, and there is at most one more of them than there are characters.
-/

namespace SchemaMatch.Regex

/-- A match may follow one that ended at a position: it does not start before that position, and is
not empty there. The first match may be any. -/
def MayFollow (previous : Option Nat) (found : Nat × Arrival) : Prop :=
  ∀ stop ∈ previous, stop ≤ found.1 ∧ ¬(found.1 = stop ∧ found.2.position = stop)

/-- What may follow starts where the previous match ended or later. -/
theorem MayFollow.le {previous : Option Nat} {found : Nat × Arrival}
    (follows : MayFollow previous found) : previous.getD 0 ≤ found.1 := by
  cases previous with
  | none => exact Nat.zero_le _
  | some stop => exact (follows stop rfl).1

namespace Term

/-- The leftmost match that may follow. -/
structure IsNext (subject : Subject) (term : Term) (previous : Option Nat)
    (found : Nat × Arrival) : Prop where
  isMatch : term.IsMatch subject found
  mayFollow : MayFollow previous found
  leftmost : ∀ other, term.IsMatch subject other → MayFollow previous other → found.1 ≤ other.1

/-- All matches from the end of a previous one on, each of which is the next one. -/
inductive Succession (subject : Subject) (term : Term) :
    Option Nat → List (Nat × Arrival) → Prop
  | done {previous : Option Nat}
      (ended : ∀ found, term.IsMatch subject found → ¬MayFollow previous found) :
      Succession subject term previous []
  | next {previous : Option Nat} {found : Nat × Arrival} {others : List (Nat × Arrival)}
      (first : term.IsNext subject previous found)
      (rest : Succession subject term (some found.2.position) others) :
      Succession subject term previous (found :: others)

/-- The leftmost match from a position on. -/
structure IsFirstFrom (subject : Subject) (term : Term) (position : Nat)
    (found : Nat × Arrival) : Prop where
  isMatch : term.IsMatch subject found
  le : position ≤ found.1
  leftmost : ∀ other, term.IsMatch subject other → position ≤ other.1 → found.1 ≤ other.1

variable {subject : Subject} {term : Term} {found other : Nat × Arrival}

theorem IsMatch.eq_of_start (first : term.IsMatch subject found)
    (second : term.IsMatch subject other) (same : found.1 = other.1) : found = other := by
  have arrival := first.preferred
  rw [same, second.preferred] at arrival
  exact Prod.ext same (Option.some.inj arrival).symm

theorem IsMatch.le (matched : term.IsMatch subject found) : found.1 ≤ found.2.position :=
  (arrivals_over subject term _ _
    (List.mem_of_mem_head? (Option.mem_def.2 matched.preferred))).le

theorem IsMatch.stop_le (matched : term.IsMatch subject found) :
    found.2.position ≤ subject.size :=
  (arrivals_over subject term _ _
    (List.mem_of_mem_head? (Option.mem_def.2 matched.preferred))).stop_le matched.inside

theorem IsMatch.lt_of_mayFollow (first : term.IsMatch subject found)
    (second : term.IsMatch subject other)
    (follows : MayFollow (some found.2.position) other) : found.1 < other.1 := by
  obtain ⟨late, filled⟩ := follows _ rfl
  apply Nat.lt_of_le_of_ne (Nat.le_trans first.le late)
  intro same
  have equal := first.eq_of_start second same
  subst equal
  have empty : found.1 = found.2.position := Nat.le_antisymm first.le late
  exact filled ⟨empty, rfl⟩

/-- The leftmost match from the end of the previous one on is the next one, if it may follow. -/
theorem IsFirstFrom.isNext {previous : Option Nat}
    (first : term.IsFirstFrom subject (previous.getD 0) found)
    (follows : MayFollow previous found) : term.IsNext subject previous found where
  isMatch := first.isMatch
  mayFollow := follows
  leftmost other matched later := first.leftmost other matched later.le

/-- After an empty match where the previous one ended, the leftmost match from the following
position on is the next one. -/
theorem IsFirstFrom.isNext_past (empty : term.IsMatch subject found)
    (nothing : found.1 = found.2.position)
    (first : term.IsFirstFrom subject (found.2.position + 1) other) :
    term.IsNext subject (some found.2.position) other where
  isMatch := first.isMatch
  mayFollow := by
    rintro stop ⟨⟩
    have beyond := first.le
    exact ⟨by omega, by omega⟩
  leftmost := by
    intro further matched follows
    have later := empty.lt_of_mayFollow matched follows
    rw [nothing] at later
    exact first.leftmost further matched later

end Term

namespace Search

variable {subject : Subject} {term : Term}

/-- The matches from a position on have been found, as far as the first of them. -/
def HasFound (subject : Subject) (term : Term) (position : Nat) :
    Option (Nat × Arrival) → Prop
  | none => ∀ found, term.IsMatch subject found → found.1 < position
  | some found => term.IsFirstFrom subject position found

theorem hasFound_matchAmong? {count position : Nat}
    (room : position + count = subject.size + 1) :
    HasFound subject term position ((start subject term).matchAmong? count position) := by
  induction count generalizing position with
  | zero =>
    intro found matched
    have inside := matched.inside
    omega
  | succ count ih =>
    have inside : position ≤ subject.size := by omega
    rw [matchAmong?, matchAt?_start inside]
    cases preferred : term.matchAt? subject position with
    | some arrival =>
      exact ⟨⟨inside, preferred⟩, Nat.le_refl position, fun _ _ late => late⟩
    | none =>
      have elsewhere : ∀ other, term.IsMatch subject other → other.1 ≠ position := by
        rintro other matched rfl
        rw [matched.preferred] at preferred
        cases preferred
      have later : HasFound subject term (position + 1) _ := ih (by omega)
      simp only [Option.map_none]
      cases result : (start subject term).matchAmong? count (position + 1) with
      | none =>
        rw [result] at later
        intro found matched
        have bound := later found matched
        have different := elsewhere found matched
        omega
      | some found =>
        rw [result] at later
        refine ⟨later.isMatch, Nat.le_of_succ_le later.le, ?_⟩
        intro other matched late
        have different := elsewhere other matched
        exact later.leftmost other matched (by omega)

theorem hasFound_matchFrom? (subject : Subject) (term : Term) (position : Nat) :
    HasFound subject term position ((start subject term).matchFrom? position) := by
  by_cases inside : position ≤ subject.size + 1
  · exact hasFound_matchAmong? (Nat.add_sub_cancel' inside)
  · have beyond : (start subject term).matchFrom? position = none := by
      have none : (start subject term).subject.size + 1 - position = 0 := by
        change subject.size + 1 - position = 0
        omega
      rw [matchFrom?, none, matchAmong?]
    rw [beyond]
    intro found matched
    have bound := matched.inside
    omega

theorem next_or_ended_of_matchesFrom (subject : Subject) (term : Term) (bound : Nat)
    (previous : Option Nat) :
    (∃ found, term.IsNext subject previous found ∧
      (start subject term).matchesFrom (bound + 1) (previous.getD 0) previous =
        found :: (start subject term).matchesFrom bound found.2.position found.2.position) ∨
    ((∀ found, term.IsMatch subject found → ¬MayFollow previous found) ∧
      (start subject term).matchesFrom (bound + 1) (previous.getD 0) previous = []) := by
  rw [matchesFrom]
  have here := hasFound_matchFrom? subject term (previous.getD 0)
  cases first : (start subject term).matchFrom? (previous.getD 0) with
  | none =>
    rw [first] at here
    right
    refine ⟨?_, rfl⟩
    intro found matched follows
    exact absurd (here found matched) (Nat.not_lt.2 follows.le)
  | some found =>
    rw [first] at here
    obtain ⟨begin, arrival⟩ := found
    by_cases touching : begin = arrival.position ∧ previous = some arrival.position
    · obtain ⟨nothing, rfl⟩ := touching
      have there := hasFound_matchFrom? subject term (arrival.position + 1)
      simp only [Option.getD_some, nothing, BEq.rfl, Bool.and_true, if_true]
      cases second : (start subject term).matchFrom? (arrival.position + 1) with
      | none =>
        rw [second] at there
        right
        refine ⟨?_, rfl⟩
        intro other matched follows
        have later : begin < other.1 := here.isMatch.lt_of_mayFollow matched follows
        have before := there other matched
        omega
      | some other =>
        rw [second] at there
        left
        exact ⟨other, there.isNext_past here.isMatch nothing, rfl⟩
    · left
      refine ⟨(begin, arrival), here.isNext ?_, ?_⟩
      · rintro stop ⟨⟩
        refine ⟨here.le, ?_⟩
        rintro ⟨rfl, same⟩
        exact touching ⟨same.symm, by rw [same]⟩
      · have passed : (begin == arrival.position && previous == some arrival.position) = false := by
          rw [Bool.eq_false_iff]
          simpa using touching
        simp only [passed, Bool.false_eq_true, if_false]

/-- Matches that follow one another are found up to the last one, if the bound exceeds the number of
positions at which they can start. -/
theorem succession_matchesFrom (bound : Nat) (previous : Option Nat)
    (enough : ∀ found, term.IsMatch subject found → MayFollow previous found →
      subject.size + 1 ≤ bound + found.1) :
    term.Succession subject previous
      ((start subject term).matchesFrom bound (previous.getD 0) previous) := by
  induction bound generalizing previous with
  | zero =>
    apply Term.Succession.done
    intro found matched follows
    have inside := matched.inside
    have room := enough found matched follows
    omega
  | succ bound ih =>
    rcases next_or_ended_of_matchesFrom subject term bound previous with
      ⟨found, next, same⟩ | ⟨ended, same⟩
    · rw [same]
      apply Term.Succession.next next
      apply ih (some found.2.position)
      intro other matched follows
      have later := next.isMatch.lt_of_mayFollow matched follows
      have room := enough found next.isMatch next.mayFollow
      omega
    · rw [same]
      exact .done ended

end Search

namespace Term

variable {subject : Subject} {term : Term} {previous : Option Nat} {founds : List (Nat × Arrival)}

/-- The non-overlapping matches of a text are those that follow one another from its start on, all
of them. -/
theorem succession_allMatches (subject : Subject) (term : Term) :
    term.Succession subject none (term.allMatches subject) :=
  Search.succession_matchesFrom (subject.size + 2) none fun found _ _ => by omega

theorem head?_allMatches (subject : Subject) (term : Term) :
    (term.allMatches subject).head? = term.firstMatch? subject := by
  rw [allMatches, firstMatch?, Search.matchesFrom]
  cases (Search.start subject term).matchFrom? 0 with
  | none => rfl
  | some found => simp

theorem isSome_firstMatch?_iff (subject : Subject) (term : Term) :
    (term.firstMatch? subject).isSome = true ↔ ∃ found, term.IsMatch subject found := by
  constructor
  · intro some
    obtain ⟨found, first⟩ := Option.isSome_iff_exists.1 some
    exact ⟨found, isMatch_of_firstMatch? first⟩
  · rintro ⟨found, matched⟩
    have search := Search.hasFound_matchFrom? subject term 0
    rw [firstMatch?]
    cases first : (Search.start subject term).matchFrom? 0 with
    | none =>
      rw [first] at search
      exact absurd (search found matched) (Nat.not_lt_zero _)
    | some other => rfl

namespace Succession

theorem isMatch_of_mem (succession : term.Succession subject previous founds)
    {found : Nat × Arrival} (member : found ∈ founds) : term.IsMatch subject found := by
  induction succession with
  | done ended => cases member
  | next first rest ih =>
    rcases List.mem_cons.1 member with rfl | member
    · exact first.isMatch
    · exact ih member

/-- Not only the next match but every later one may follow. -/
theorem mayFollow_of_mem (succession : term.Succession subject previous founds)
    {found : Nat × Arrival} (member : found ∈ founds) : MayFollow previous found := by
  induction succession with
  | done ended => cases member
  | next first rest ih =>
    rcases List.mem_cons.1 member with rfl | member
    · exact first.mayFollow
    · intro stop ended
      obtain ⟨late, filled⟩ := first.mayFollow stop ended
      have beyond := (ih member _ rfl).1
      have forward := first.isMatch.le
      refine ⟨by omega, ?_⟩
      rintro ⟨same, _⟩
      exact filled ⟨by omega, by omega⟩

/-- Of two matches that follow one another, the later one starts later, not before the end of the
earlier one, and is not empty there. -/
theorem pairwise (succession : term.Succession subject previous founds) :
    founds.Pairwise fun earlier later =>
      earlier.1 < later.1 ∧ MayFollow (some earlier.2.position) later := by
  induction succession with
  | done ended => exact .nil
  | next first rest ih =>
    refine List.pairwise_cons.2 ⟨?_, ih⟩
    intro later member
    have follows := rest.mayFollow_of_mem member
    exact ⟨first.isMatch.lt_of_mayFollow (rest.isMatch_of_mem member) follows, follows⟩

theorem length_le (succession : term.Succession subject previous founds) :
    founds.length ≤ subject.size + 1 := by
  have distinct : (founds.map Prod.fst).Nodup := by
    apply List.Pairwise.map Prod.fst _ succession.pairwise
    rintro earlier later ⟨less, _⟩
    exact Nat.ne_of_lt less
  have within : founds.map Prod.fst ⊆ List.range (subject.size + 1) := by
    intro begin member
    obtain ⟨found, among, rfl⟩ := List.mem_map.1 member
    exact List.mem_range.2 (Nat.lt_succ_of_le (succession.isMatch_of_mem among).inside)
  have short := (distinct.subperm within).length_le
  rwa [List.length_map, List.length_range] at short

/-- If two terms match alike from each position, up to the same end, then so do all their matches
that follow one another. -/
theorem forall₂ {other : Term} {Rel : Nat → Arrival → Arrival → Prop}
    (alike : ∀ position, Option.Rel (Rel position) (term.matchAt? subject position)
      (other.matchAt? subject position))
    (stops : ∀ ⦃position arrival arrival'⦄, Rel position arrival arrival' →
      arrival'.position = arrival.position) {founds' : List (Nat × Arrival)}
    (succession : term.Succession subject previous founds)
    (succession' : other.Succession subject previous founds') :
    List.Forall₂ (fun found found' => term.IsMatch subject found ∧ other.IsMatch subject found' ∧
      found'.1 = found.1 ∧ Rel found.1 found.2 found'.2) founds founds' := by
  have forth {found : Nat × Arrival} (matched : term.IsMatch subject found) :
      ∃ arrival', other.IsMatch subject (found.1, arrival') ∧ Rel found.1 found.2 arrival' := by
    have same := alike found.1
    rw [matched.preferred] at same
    generalize preferred : other.matchAt? subject found.1 = result at same
    cases same with
    | some rel =>
      refine ⟨_, ?_, rel⟩
      exact ⟨matched.inside, preferred⟩
  have back {found' : Nat × Arrival} (matched : other.IsMatch subject found') :
      ∃ arrival, term.IsMatch subject (found'.1, arrival) ∧ Rel found'.1 arrival found'.2 := by
    have same := alike found'.1
    rw [matched.preferred] at same
    generalize preferred : term.matchAt? subject found'.1 = result at same
    cases same with
    | some rel =>
      refine ⟨_, ?_, rel⟩
      exact ⟨matched.inside, preferred⟩
  have follows {previous : Option Nat} {position : Nat} {arrival arrival' : Arrival}
      (rel : Rel position arrival arrival') :
      MayFollow previous (position, arrival') ↔ MayFollow previous (position, arrival) := by
    simp only [MayFollow, stops rel]
  induction succession generalizing founds' with
  | done ended =>
    cases succession' with
    | done => exact .nil
    | next first rest =>
      obtain ⟨arrival, matched, rel⟩ := back first.isMatch
      exact absurd ((follows rel).1 first.mayFollow) (ended _ matched)
  | @next previous found others first rest ih =>
    obtain ⟨arrival', matched', rel⟩ := forth first.isMatch
    have may' := (follows rel).2 first.mayFollow
    cases succession' with
    | done ended => exact absurd may' (ended _ matched')
    | @next _ found' others' first' rest' =>
      obtain ⟨arrival, matched, rel'⟩ := back first'.isMatch
      have early := first'.leftmost _ matched' may'
      have late := first.leftmost _ matched ((follows rel').1 first'.mayFollow)
      cases first'.isMatch.eq_of_start matched' (Nat.le_antisymm early late)
      have stop := stops rel
      refine .cons ⟨first.isMatch, matched', rfl, rel⟩ (ih ?_)
      rw [← stop]
      exact rest'

end Succession

end Term

end SchemaMatch.Regex
