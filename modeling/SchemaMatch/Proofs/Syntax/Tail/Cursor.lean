import SchemaMatch.Syntax.Cursor

/-!
# Cursors before a longer text

The same text may end a pattern or go on with a tail. What a cursor does over the text it does
over the longer one too, as long as it does not reach the end. At the end a tail that begins with a
closing parenthesis stops it, unless blanks are skipped and the text ends in a comment: the comment
then hides the tail.
-/

namespace SchemaMatch.Syntax

theorem isBlank_close : Unicode.isBlank ')' = false := rfl

namespace Cursor

/-- One cursor is at the same text as another one, with a tail after it. -/
structure Extends (short : Cursor) (tail : List Char) (long : Cursor) : Prop where
  rest : long.rest = short.rest ++ tail
  verbose : long.verbose = short.verbose

/-- A tail that begins with a closing parenthesis. A comment that hides it must hide all of it. -/
structure Closes (hidden : Bool) (tail : List Char) : Prop where
  head : tail.head? = some ')'
  alone : hidden = true → tail = [')']

def remaining (hidden : Bool) (tail : List Char) : List Char := if hidden then [] else tail

theorem Closes.eq_cons {hidden : Bool} {tail : List Char} (closes : Closes hidden tail) :
    ∃ more, tail = ')' :: more := by
  have head := closes.head
  cases tail with
  | nil => cases head
  | cons c more =>
    cases head
    exact ⟨more, rfl⟩

/-- What is left of a closing tail is nothing or begins with the parenthesis. -/
theorem Closes.head?_remaining_ne {hidden : Bool} {tail : List Char} (closes : Closes hidden tail)
    {c : Char} (other : c ≠ ')') : (remaining hidden tail).head? ≠ some c := by
  cases hidden with
  | true => exact nofun
  | false =>
    have head : (remaining false tail).head? = some ')' := closes.head
    rw [head]
    exact fun equal => other (Option.some.inj equal).symm

theorem rest_ne_nil_of_peek? {cursor : Cursor} {c : Char} (seen : cursor.peek? = some c) :
    cursor.rest ≠ [] := by
  intro empty
  rw [peek?, empty] at seen
  cases seen

theorem rest_ne_nil_of_sees {cursor : Cursor} {c : Char} (seen : cursor.sees c = true) :
    cursor.rest ≠ [] := by
  refine rest_ne_nil_of_peek? (c := c) ?_
  simpa only [sees, beq_iff_eq] using seen

theorem atEnd_eq_false_iff {cursor : Cursor} : cursor.atEnd = false ↔ cursor.rest ≠ [] := by
  rw [atEnd, ← Bool.not_eq_true, List.isEmpty_iff]

theorem peek?_eq_none_iff {cursor : Cursor} : cursor.peek? = none ↔ cursor.rest = [] := by
  rw [peek?, List.head?_eq_none_iff]

@[simp] theorem rest_advance (cursor : Cursor) : cursor.advance.rest = cursor.rest.tail := by
  unfold advance
  split <;> simp [*]

@[simp] theorem verbose_advance (cursor : Cursor) : cursor.advance.verbose = cursor.verbose := by
  unfold advance
  split <;> rfl

@[simp] theorem verbose_skip (cursor : Cursor) : cursor.skip.verbose = cursor.verbose := by
  unfold skip
  split <;> rfl

@[simp] theorem verbose_next (cursor : Cursor) : cursor.next.verbose = cursor.verbose := by
  rw [next, verbose_skip, verbose_advance]

theorem skipFrom_suffix (rest : List Char) (position : Position) (inComment : Bool) :
    (skipFrom position inComment rest).1 <:+ rest := by
  induction rest generalizing position inComment with
  | nil => exact List.suffix_refl []
  | cons c rest ih =>
    simp only [skipFrom]
    split
    · exact (ih ..).trans (List.suffix_cons c rest)
    · split
      · exact (ih ..).trans (List.suffix_cons c rest)
      · split
        · exact (ih ..).trans (List.suffix_cons c rest)
        · exact List.suffix_refl _

theorem skip_suffix (cursor : Cursor) : cursor.skip.rest <:+ cursor.rest := by
  unfold skip
  split
  · exact skipFrom_suffix ..
  · exact List.suffix_refl _

theorem next_suffix (cursor : Cursor) : cursor.next.rest <:+ cursor.rest.tail := by
  rw [next, ← rest_advance]
  exact skip_suffix _

theorem ne_nil_of_suffix {front back : List Char} (suffix : back <:+ front) (some : back ≠ []) :
    front ≠ [] := by
  intro empty
  rw [empty, List.suffix_nil] at suffix
  exact some suffix

/-- Suffixes keep their order one character further. -/
theorem tail_suffix_tail {front back : List Char} (suffix : back <:+ front) :
    back.tail <:+ front.tail := by
  obtain ⟨before, rfl⟩ := suffix
  cases before with
  | nil => exact List.suffix_refl _
  | cons c before => exact (List.tail_suffix back).trans (List.suffix_append before back)

theorem rest_ne_nil_of_next {cursor : Cursor} (left : cursor.next.rest ≠ []) :
    cursor.rest ≠ [] := by
  intro empty
  have suffix := next_suffix cursor
  rw [empty] at suffix
  exact ne_nil_of_suffix suffix left rfl

/-- Skipping reads on from a text into a tail: it stops before the tail, or in a comment that
hides it. -/
theorem skipFrom_append (rest : List Char) (inComment : Bool) (position : Position) :
    ∃ hidden, (hidden = true → (skipFrom position inComment rest).1 = []) ∧
      ∀ tail other, Closes hidden tail →
        (skipFrom other inComment (rest ++ tail)).1 =
          (skipFrom position inComment rest).1 ++ remaining hidden tail := by
  induction rest generalizing inComment position with
  | nil =>
    refine ⟨inComment, fun _ => rfl, fun tail other closes => ?_⟩
    cases inComment with
    | true =>
      rw [closes.alone rfl]
      rfl
    | false =>
      obtain ⟨more, rfl⟩ := closes.eq_cons
      simp [skipFrom, isBlank_close, remaining]
  | cons c rest ih =>
    simp only [List.cons_append, skipFrom]
    split
    · obtain ⟨hidden, empty, reads⟩ := ih (c != '\n') (position.advance c)
      exact ⟨hidden, empty, fun tail other closes => reads tail _ closes⟩
    · split
      · obtain ⟨hidden, empty, reads⟩ := ih false (position.advance c)
        exact ⟨hidden, empty, fun tail other closes => reads tail _ closes⟩
      · split
        · obtain ⟨hidden, empty, reads⟩ := ih true (position.advance c)
          exact ⟨hidden, empty, fun tail other closes => reads tail _ closes⟩
        · exact ⟨false, nofun, fun tail other closes => rfl⟩

/-- Skipping that stops inside a text stops there before every tail. -/
theorem skipFrom_append_of_ne_nil {rest : List Char} {inComment : Bool} {position : Position}
    (left : (skipFrom position inComment rest).1 ≠ []) (tail : List Char) (other : Position) :
    (skipFrom other inComment (rest ++ tail)).1 =
      (skipFrom position inComment rest).1 ++ tail := by
  induction rest generalizing inComment position other with
  | nil => exact absurd rfl left
  | cons c rest ih =>
    simp only [List.cons_append, skipFrom] at left ⊢
    split
    · rename_i comment
      rw [if_pos comment] at left
      exact ih left _
    · rename_i comment
      rw [if_neg comment] at left
      split
      · rename_i blank
        rw [if_pos blank] at left
        exact ih left _
      · rename_i blank
        rw [if_neg blank] at left
        split
        · rename_i sign
          rw [if_pos sign] at left
          exact ih left _
        · rfl

namespace Extends

variable {short long : Cursor} {tail : List Char}

theorem refl (cursor : Cursor) : cursor.Extends [] cursor := ⟨(List.append_nil _).symm, rfl⟩

theorem peek? (same : short.Extends tail long) (left : short.rest ≠ []) :
    long.peek? = short.peek? := by
  rw [Cursor.peek?, Cursor.peek?, same.rest]
  cases rest : short.rest with
  | nil => exact absurd rest left
  | cons c others => rfl

theorem peek?_of_some {c : Char} (same : short.Extends tail long) (seen : short.peek? = some c) :
    long.peek? = some c :=
  (same.peek? (rest_ne_nil_of_peek? seen)).trans seen

theorem peek?_of_none (same : short.Extends tail long) (ended : short.peek? = none) :
    long.peek? = tail.head? := by
  rw [Cursor.peek?, same.rest, peek?_eq_none_iff.1 ended, List.nil_append]

/-- The tail does not change whether a character is seen that it does not begin with. -/
theorem sees_of_ne (same : short.Extends tail long) {c : Char} (other : tail.head? ≠ some c) :
    long.sees c = short.sees c := by
  cases seen : short.peek? with
  | none =>
    rw [Cursor.sees, Cursor.sees, same.peek?_of_none seen, seen]
    simpa using other
  | some found => rw [Cursor.sees, Cursor.sees, same.peek?_of_some seen, seen]

/-- The tail does not change whether a character is seen that is not a closing parenthesis. -/
theorem sees (same : short.Extends tail long) (head : tail.head? = some ')') {c : Char}
    (other : c ≠ ')') : long.sees c = short.sees c := by
  refine same.sees_of_ne ?_
  rw [head]
  exact fun equal => other (Option.some.inj equal).symm

theorem sees_of_ne_nil (same : short.Extends tail long) (left : short.rest ≠ []) (c : Char) :
    long.sees c = short.sees c := by
  rw [Cursor.sees, Cursor.sees, same.peek? left]

theorem atEnd (same : short.Extends tail long) (left : short.rest ≠ []) :
    long.atEnd = false := by
  rw [atEnd_eq_false_iff, same.rest]
  exact fun empty => left (List.append_eq_nil_iff.1 empty).1

theorem advance (same : short.Extends tail long) (left : short.rest ≠ []) :
    short.advance.Extends tail long.advance where
  rest := by rw [rest_advance, rest_advance, same.rest, List.tail_append_of_ne_nil left]
  verbose := by rw [verbose_advance, verbose_advance, same.verbose]

theorem skip (same : short.Extends tail long) (left : short.skip.rest ≠ []) :
    short.skip.Extends tail long.skip where
  rest := by
    unfold Cursor.skip at left ⊢
    rw [same.verbose]
    split
    · rename_i verbose
      rw [if_pos verbose] at left
      simp only [same.rest]
      exact skipFrom_append_of_ne_nil left tail _
    · exact same.rest
  verbose := by rw [verbose_skip, verbose_skip, same.verbose]

theorem next (same : short.Extends tail long) (left : short.next.rest ≠ []) :
    short.next.Extends tail long.next :=
  (same.advance (rest_ne_nil_of_next left)).skip left

/-- What takes something from a text takes as much before a tail. -/
theorem length_lt {mid stop : Cursor} (same : short.Extends tail long)
    (stops : mid.Extends tail stop) (left : short.rest ≠ [])
    (shorter : mid.rest <:+ short.rest.tail) : stop.rest.length < long.rest.length := by
  have fewer := shorter.length_le
  have some := List.length_pos_iff.2 left
  rw [List.length_tail] at fewer
  rw [same.rest, stops.rest, List.length_append, List.length_append]
  omega

end Extends

/-- Skipping at the end of a text: either the tail stops it or a comment hides the tail. -/
theorem exists_skip_extends (short : Cursor) :
    ∃ hidden, (hidden = true → short.skip.rest = []) ∧
      ∀ tail long, Closes hidden tail → short.Extends tail long →
        short.skip.Extends (remaining hidden tail) long.skip := by
  cases verbose : short.verbose with
  | false =>
    refine ⟨false, nofun, fun tail long closes same => ?_⟩
    have still : long.verbose = false := same.verbose.trans verbose
    simp only [Cursor.skip, verbose, still, remaining, Bool.false_eq_true, if_false]
    exact same
  | true =>
    obtain ⟨hidden, empty, reads⟩ := skipFrom_append short.rest false short.position
    refine ⟨hidden, ?_, fun tail long closes same => ⟨?_, ?_⟩⟩
    · simpa only [Cursor.skip, verbose, if_true] using empty
    · simp only [Cursor.skip, verbose, same.verbose, if_true, same.rest]
      exact reads tail _ closes
    · rw [verbose_skip, verbose_skip, same.verbose]

theorem exists_next_extends {short : Cursor} (left : short.rest ≠ []) :
    ∃ hidden, (hidden = true → short.next.rest = []) ∧
      ∀ tail long, Closes hidden tail → short.Extends tail long →
        short.next.Extends (remaining hidden tail) long.next := by
  obtain ⟨hidden, empty, reads⟩ := exists_skip_extends short.advance
  exact ⟨hidden, empty, fun tail long closes same =>
    reads tail long.advance closes (same.advance left)⟩

/-- The steps of a loop never go back. -/
theorem takeWhile_suffix {p : Char → Bool} {step : Cursor → Cursor}
    (shorter : ∀ cursor, (step cursor).rest <:+ cursor.rest.tail) (bound : Nat)
    (cursor : Cursor) : (takeWhile p step bound cursor).2.rest <:+ cursor.rest := by
  induction bound generalizing cursor with
  | zero => exact List.suffix_refl _
  | succ bound ih =>
    rw [takeWhile]
    split
    · exact List.suffix_refl _
    · split
      · exact ((ih _).trans (shorter cursor)).trans (List.tail_suffix _)
      · exact List.suffix_refl _

/-- A loop that stops inside a text takes the same characters before every tail. -/
theorem takeWhile_extends {p : Char → Bool} {step : Cursor → Cursor} {tail : List Char}
    (shorter : ∀ cursor, (step cursor).rest <:+ cursor.rest.tail)
    (moves : ∀ short long, short.Extends tail long → (step short).rest ≠ [] →
      (step short).Extends tail (step long))
    {bound other : Nat} {short long : Cursor} (enough : short.rest.length ≤ bound)
    (more : long.rest.length ≤ other) (left : (takeWhile p step bound short).2.rest ≠ [])
    (same : short.Extends tail long) :
    (takeWhile p step other long).1.map Prod.fst =
        (takeWhile p step bound short).1.map Prod.fst ∧
      (takeWhile p step bound short).2.Extends tail (takeWhile p step other long).2 := by
  induction bound generalizing other short long with
  | zero => exact absurd (List.length_eq_zero_iff.1 (Nat.le_zero.1 enough)) left
  | succ bound ih =>
    have here := ne_nil_of_suffix (takeWhile_suffix shorter (bound + 1) short) left
    have further : long.rest ≠ [] := by
      rw [same.rest]
      exact fun empty => here (List.append_eq_nil_iff.1 empty).1
    obtain ⟨other, rfl⟩ : ∃ fewer, other = fewer + 1 := by
      have positive := List.length_pos_iff.2 further
      exact ⟨other - 1, by omega⟩
    cases seen : short.peek? with
    | none => exact absurd (peek?_eq_none_iff.1 seen) here
    | some c =>
      have met := same.peek?_of_some seen
      simp only [takeWhile, seen, met] at left ⊢
      split
      · rename_i holds
        rw [if_pos holds] at left
        have inside := ne_nil_of_suffix (takeWhile_suffix shorter bound (step short)) left
        have fewer := (shorter short).length_le
        have less := (shorter long).length_le
        rw [List.length_tail] at fewer less
        have room : (step long).rest.length ≤ other := by omega
        obtain ⟨letters, stops⟩ := ih (by omega) room left (moves short long same inside)
        exact ⟨by rw [List.map_cons, List.map_cons, letters], stops⟩
      · exact ⟨rfl, same⟩

theorem takeWhile_advance_extends {p : Char → Bool} (excluded : p ')' = false) (bound : Nat)
    {tail : List Char} (head : tail.head? = some ')') {short long : Cursor}
    (same : short.Extends tail long) :
    (takeWhile p advance bound long).1.map Prod.fst =
        (takeWhile p advance bound short).1.map Prod.fst ∧
      (takeWhile p advance bound short).2.Extends tail (takeWhile p advance bound long).2 := by
  induction bound generalizing short long with
  | zero => exact ⟨rfl, same⟩
  | succ bound ih =>
    cases seen : short.peek? with
    | none =>
      simp only [takeWhile, seen, same.peek?_of_none seen, head, excluded, Bool.false_eq_true,
        if_false]
      exact ⟨trivial, same⟩
    | some c =>
      simp only [takeWhile, seen, same.peek?_of_some seen]
      split
      · obtain ⟨letters, stops⟩ := ih (same.advance (rest_ne_nil_of_peek? seen))
        exact ⟨by rw [List.map_cons, List.map_cons, letters], stops⟩
      · exact ⟨rfl, same⟩

theorem advance_suffix (cursor : Cursor) : cursor.advance.rest <:+ cursor.rest.tail := by
  simp only [rest_advance, List.suffix_refl]

theorem spanWhile_suffix (cursor : Cursor) (p : Char → Bool) :
    (cursor.spanWhile p).2.rest <:+ cursor.rest :=
  takeWhile_suffix next_suffix ..

theorem Extends.spanWhile {short long : Cursor} {tail : List Char} {p : Char → Bool}
    (same : short.Extends tail long) (left : (short.spanWhile p).2.rest ≠ []) :
    (long.spanWhile p).1.map Prod.fst = (short.spanWhile p).1.map Prod.fst ∧
      (short.spanWhile p).2.Extends tail (long.spanWhile p).2 :=
  takeWhile_extends next_suffix (fun _ _ => Extends.next) (Nat.le_refl _) (Nat.le_refl _) left
    same

end Cursor

end SchemaMatch.Syntax
