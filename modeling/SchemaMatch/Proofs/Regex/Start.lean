import SchemaMatch.Proofs.Regex.Passage

/-!
# No start is missed

Every position from which a term matches is among those that a search tries. The main statement is
`Term.possibleStarts_of_matchAt?`.
-/

namespace SchemaMatch.Regex

open Unicode (CodeSet)

/-- A position that characters of some sets are passed from is one of theirs. -/
theorem has_positionsOf_of_over {subject : Subject} {sets : List CodeSet} {p q : Nat}
    (passage : subject.Over sets p q) (more : p < q) (inside : q ≤ subject.size) :
    (subject.positionsOf sets).has p = true := by
  rw [Subject.positionsOf, PositionSet.has_filterUpTo, passage.among p (Nat.le_refl p) more]
  simp
  omega

theorem has_leadingTo_of_over {subject : Subject} {sets : List CodeSet} {targets : PositionSet}
    {q : Nat} (ht : targets.has q = true) (d : Nat) : ∀ {p}, p + d = q → q ≤ subject.size →
    subject.Over sets p q →
    (PositionSet.leadingTo subject.size targets (subject.positionsOf sets)).has p = true := by
  induction d with
  | zero =>
    intro p h hq _
    rw [PositionSet.has_leadingTo]
    simp at h; subst h
    simp [ht, hq]
  | succ d ih =>
    intro p h hq passage
    have := ih (p := p + 1) (by omega) hq ⟨by omega, fun i h₁ h₂ => passage.among i (by omega) h₂⟩
    rw [PositionSet.has_leadingTo, this, has_positionsOf_of_over passage (by omega) hq]
    simp; omega

/-- The same if at least one character is passed, the first of which is then looked at apart. -/
theorem has_before_leadingTo_of_over {subject : Subject} {sets : List CodeSet}
    {targets : PositionSet} {p q : Nat} (ht : targets.has q = true)
    (passage : subject.Over sets p q) (more : p < q) (inside : q ≤ subject.size) :
    ((PositionSet.leadingTo subject.size targets (subject.positionsOf sets)).before.inter
      (subject.positionsOf sets)).has p = true := by
  have rest : subject.Over sets (p + 1) q :=
    ⟨by omega, fun i h₁ h₂ => passage.among i (by omega) h₂⟩
  simp only [PositionSet.has_inter, PositionSet.has_before,
    has_leadingTo_of_over ht (q - (p + 1)) (by omega) inside rest,
    has_positionsOf_of_over passage more inside, Bool.and_true]

theorem Subject.startsOfText_of_textEnd? {subject : Subject} {text : List Char}
    {targets : PositionSet} {p q : Nat} (h : subject.textEnd? text p = some q)
    (inside : p ≤ subject.size) (ht : targets.has q = true) :
    (subject.startsOfText text targets).has p = true := by
  induction text generalizing p with
  | nil => simp only [textEnd?, Option.some.injEq] at h; subst h; exact ht
  | cons c rest ih =>
    simp only [textEnd?] at h
    split at h
    · rename_i hc
      have within : p + 1 ≤ subject.size := (Array.getElem?_eq_some_iff.1 hc).1
      have next := ih h within
      simp [startsOfText, positionsOf, hc, next, inside, CodeSet.has_single]
    · simp at h

theorem Term.starts_of_mem_arrivals (subject : Subject) (term : Term) :
    ∀ {targets start a}, a ∈ term.arrivals subject start → start.position ≤ subject.size →
      targets.has a.position = true →
      (term.starts subject targets).has start.position = true := by
  induction term with
  | empty => intro targets start a h _ ht; simp [arrivals] at h; subst h; exact ht
  | literal text =>
    intro targets start a h hs ht
    simp only [arrivals] at h
    split at h
    · rename_i stop hstop
      simp at h; subst h
      exact Subject.startsOfText_of_textEnd? hstop hs ht
    · simp at h
  | chars alphabet set =>
    intro targets start a h hs ht
    simp only [arrivals] at h
    split at h
    · rename_i c hc
      split at h
      · rename_i hset
        simp at h; subst h
        simp [starts, Subject.positionsOf, hc, hset, hs]
        exact ht
      · simp at h
    · simp at h
  | look condition =>
    intro targets start a h hs ht
    simp only [arrivals] at h
    split at h
    · rename_i hl
      simp at h; subst h
      simp [starts, Subject.positionsWhere, ht, hs, hl]
    · simp at h
  | rep min max greedy sub ih =>
    intro targets start a h hs ht
    have passage := arrivals_over subject _ start a h
    have stop := passage.stop_le hs
    have reaching := has_leadingTo_of_over ht (a.position - start.position)
      (by have := passage.le; omega) stop passage
    simp only [starts]
    split
    · rename_i set hset
      split
      · exact reaching
      · rename_i hmin
        simp only [arrivals, hset] at h
        obtain ⟨k, hk, rfl, path⟩ := mem_repeatSet h
        exact has_before_leadingTo_of_over ht passage (Nat.lt_add_of_pos_right (by omega)) stop
    · exact reaching
  | capture index sub ih =>
    intro targets start a h hs ht
    simp only [arrivals, List.mem_map] at h
    obtain ⟨b, hb, rfl⟩ := h
    exact ih hb hs ht
  | seq first second ih₁ ih₂ =>
    intro targets start a h hs ht
    simp only [arrivals] at h
    obtain ⟨b, hb, h⟩ := exists_of_mem_continueWith h
    exact ih₁ hb hs (ih₂ h ((arrivals_over subject _ start b hb).stop_le hs) ht)
  | alt first second ih₁ ih₂ =>
    intro targets start a h hs ht
    simp only [arrivals] at h
    simp only [starts, PositionSet.has_union, Bool.or_eq_true]
    rcases List.mem_append.1 (mem_of_mem_distinct h) with h | h
    · exact .inl (ih₁ h hs ht)
    · exact .inr (ih₂ h hs ht)

theorem Term.possibleStarts_of_matchAt? {subject : Subject} {term : Term} {p : Nat} {a : Arrival}
    (inside : p ≤ subject.size) (h : term.matchAt? subject p = some a) :
    (term.possibleStarts subject).has p = true := by
  have m := List.mem_of_mem_head? h
  exact starts_of_mem_arrivals subject term m inside
    (by
      have := (arrivals_over subject _ _ a m).stop_le inside
      simpa [Subject.positions] using this)

end SchemaMatch.Regex
