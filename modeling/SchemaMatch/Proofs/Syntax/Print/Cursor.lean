import SchemaMatch.Proofs.Syntax.Tail.Cursor
import SchemaMatch.Syntax.Escape

/-!
# Printed text before printed text

What is printed reads as what it was printed from, as long as the text after it is like the text
that stood after the original. How much of it must be alike is `Follows`: the readers look ahead
past few characters. Blanks are read like everything else, so a cursor that skips none is at its
text and nothing else.
-/

namespace SchemaMatch.Syntax

/-- The characters past which a reader may look ahead: those of the name of a class with its signs,
and those that are operators of a class when they are doubled. -/
def isOrdinary (c : Char) : Bool := c.isAlpha || [':', '^', ']', '-', '&', '~'].contains c

/-- A text follows what is printed as another one follows the original. Both begin with the same
character, and if this is ordinary they go on alike. A brace either does not end what a reader looks
at, or is before a count, which begins with a digit. -/
inductive Follows : List Char → List Char → Prop
  | ended {text : List Char} (closes : text.head? = none ∨ text.head? = some ')') : Follows [] text
  | same (c : Char) {rest text : List Char} (alike : Follows rest text) :
    Follows (c :: rest) (c :: text)
  | apart {c : Char} (rest text : List Char) (strange : isOrdinary c = false)
    (noBrace : c ≠ '\x7b') : Follows (c :: rest) (c :: text)
  | count {d : Char} (rest text : List Char) (digit : d.isDigit = true) :
    Follows ('\x7b' :: rest) ('\x7b' :: d :: text)

theorem forall_of_isDigit {P : Char → Prop} (holds : ∀ n < 58, 48 ≤ n → P (Char.ofNat n))
    {c : Char} (digit : c.isDigit = true) : P c := by
  obtain ⟨above, below⟩ := Char.isDigit_iff_toNat.1 digit
  rw [← Char.ofNat_toNat c]
  exact holds c.toNat (Nat.lt_succ_of_le below) above

theorem not_isBoundaryChar_of_isDigit {d : Char} (digit : d.isDigit = true) :
    Escape.isBoundaryChar d = false :=
  forall_of_isDigit (P := fun d => Escape.isBoundaryChar d = false) (by decide) digit

namespace Follows

variable {rest text : List Char} {c d : Char}

/-- The text begins as the original does, unless this has ended. -/
theorem head? (follows : Follows rest text) (head : rest.head? = some c) :
    text.head? = some c := by
  cases follows with
  | ended closes => cases head
  | same c alike => exact head
  | apart rest text strange noBrace => exact head
  | count rest text digit => exact head

/-- The original begins as the text does, unless this has only been closed. -/
theorem head?_rest (follows : Follows rest text) (head : text.head? = some c) (other : c ≠ ')') :
    rest.head? = some c := by
  cases follows with
  | ended closes =>
    rcases closes with none | close
    · rw [none] at head
      cases head
    · rw [close] at head
      exact absurd (Option.some.inj head).symm other
  | same c alike => exact head
  | apart rest text strange noBrace => exact head
  | count rest text digit => exact head

/-- Whether a character comes first is the same, but for the parenthesis. -/
theorem head?_iff (follows : Follows rest text) (other : c ≠ ')') :
    text.head? = some c ↔ rest.head? = some c :=
  ⟨fun head => follows.head?_rest head other, follows.head?⟩

theorem ne_nil (follows : Follows rest text) (left : rest ≠ []) : text ≠ [] := by
  obtain ⟨c, others, rfl⟩ := List.exists_cons_of_ne_nil left
  rintro rfl
  cases follows.head? rfl

/-- Past an ordinary character the texts go on alike. -/
theorem tail (follows : Follows (c :: rest) (d :: text)) (ordinary : isOrdinary c = true) :
    Follows rest text := by
  cases follows with
  | same c alike => exact alike
  | apart rest text strange noBrace =>
    rw [strange] at ordinary
    cases ordinary
  | count rest text digit => cases ordinary

/-- Ordinary characters that come first come first in the original. -/
theorem exists_eq_append {front : List Char} (follows : Follows rest (front ++ text))
    (ordinary : ∀ c ∈ front, isOrdinary c = true) : ∃ more, rest = front ++ more := by
  induction front generalizing rest with
  | nil => exact ⟨rest, rfl⟩
  | cons c front ih =>
    have other : c ≠ ')' := by
      rintro rfl
      exact absurd (ordinary _ List.mem_cons_self) (by decide)
    obtain ⟨others, rfl⟩ := List.head?_eq_some_iff.1 (follows.head?_rest rfl other)
    obtain ⟨more, equal⟩ := ih (follows.tail (ordinary c List.mem_cons_self)) fun d member =>
      ordinary d (List.mem_cons_of_mem c member)
    exact ⟨more, by rw [equal, List.cons_append]⟩

/-- After a brace the text goes on if the original does, and no name begins there that does not
begin in the original. -/
theorem after_brace (follows : Follows ('\x7b' :: rest) ('\x7b' :: text))
    (head : rest.head? = some c) :
    ∃ d, text.head? = some d ∧ (Escape.isBoundaryChar d = true → d = c) := by
  cases follows with
  | same c alike => exact ⟨c, alike.head? head, fun _ => rfl⟩
  | apart rest text strange noBrace => exact absurd rfl noBrace
  | @count d rest text digit =>
    refine ⟨d, rfl, fun letter => ?_⟩
    rw [not_isBoundaryChar_of_isDigit digit] at letter
    cases letter

end Follows

namespace Cursor

/-- A cursor is before a text and skips no blanks. -/
structure Before (cursor : Cursor) (text : List Char) : Prop where
  rest : cursor.rest = text
  terse : cursor.verbose = false

variable {cursor : Cursor} {text more : List Char} {c : Char}

theorem exists_rest_of_peek? (seen : cursor.peek? = some c) : ∃ more, cursor.rest = c :: more :=
  List.head?_eq_some_iff.1 seen

theorem exists_rest_of_sees (seen : cursor.sees c = true) : ∃ more, cursor.rest = c :: more :=
  exists_rest_of_peek? (beq_iff_eq.1 seen)

theorem skip_of_terse (terse : cursor.verbose = false) : cursor.skip = cursor := by
  rw [skip, terse]
  rfl

theorem next_of_terse (terse : cursor.verbose = false) : cursor.next = cursor.advance := by
  rw [next, skip_of_terse (by rw [verbose_advance, terse])]

theorem peekPast?_of_terse (terse : cursor.verbose = false) :
    cursor.peekPast? = cursor.rest.tail.head? := by
  rw [peekPast?, terse]
  rfl

/-- Of characters that are taken, those are that come first and satisfy the predicate. -/
theorem takeWhile_advance (p : Char → Bool) {bound : Nat} (enough : cursor.rest.length ≤ bound) :
    (takeWhile p advance bound cursor).1.map Prod.fst = cursor.rest.takeWhile p ∧
      (takeWhile p advance bound cursor).2.rest = cursor.rest.dropWhile p ∧
      (takeWhile p advance bound cursor).2.verbose = cursor.verbose := by
  induction bound generalizing cursor with
  | zero =>
    have empty := List.eq_nil_of_length_eq_zero (Nat.le_zero.1 enough)
    simp only [takeWhile, empty, List.takeWhile_nil, List.dropWhile_nil, List.map_nil, and_self]
  | succ bound ih =>
    cases rest : cursor.rest with
    | nil => simp [takeWhile, peek?, rest]
    | cons c others =>
      have after : cursor.advance.rest = others := by rw [rest_advance, rest, List.tail_cons]
      have fewer : cursor.advance.rest.length ≤ bound := by
        rw [after]
        rw [rest, List.length_cons] at enough
        omega
      obtain ⟨letters, stop, verbose⟩ := ih fewer
      rw [after] at letters stop
      rw [verbose_advance] at verbose
      by_cases holds : p c = true
      · simp [takeWhile, peek?, rest, holds, letters, stop, verbose]
      · simp [takeWhile, peek?, rest, holds]

theorem takeWhile_next_of_terse (p : Char → Bool) (bound : Nat) (terse : cursor.verbose = false) :
    takeWhile p next bound cursor = takeWhile p advance bound cursor := by
  induction bound generalizing cursor with
  | zero => rfl
  | succ bound ih =>
    have after : cursor.advance.verbose = false := by rw [verbose_advance, terse]
    simp only [takeWhile, next_of_terse terse, ih after]

namespace Before

theorem peek? (before : cursor.Before text) : cursor.peek? = text.head? := by
  rw [Cursor.peek?, before.rest]

theorem sees (before : cursor.Before text) (c : Char) :
    cursor.sees c = (text.head? == some c) := by
  rw [Cursor.sees, before.peek?]

theorem atEnd (before : cursor.Before text) : cursor.atEnd = text.isEmpty := by
  rw [Cursor.atEnd, before.rest]

theorem atEnd_eq_false {rest : List Char} (before : cursor.Before text)
    (follows : Follows rest text) (left : rest ≠ []) : cursor.atEnd = false := by
  rw [before.atEnd, List.isEmpty_eq_false_iff]
  exact follows.ne_nil left

/-- A cursor sees what the original saw, but for the parenthesis. -/
theorem sees_of_follows {short : Cursor} (before : cursor.Before text)
    (follows : Follows short.rest text) (other : c ≠ ')') : cursor.sees c = short.sees c := by
  rw [before.sees, Cursor.sees, Cursor.peek?, Bool.eq_iff_iff, beq_iff_eq, beq_iff_eq]
  exact follows.head?_iff other

theorem advance (before : cursor.Before (c :: text)) : cursor.advance.Before text :=
  ⟨by rw [rest_advance, before.rest, List.tail_cons], by rw [verbose_advance, before.terse]⟩

theorem skip (before : cursor.Before text) : cursor.skip = cursor := skip_of_terse before.terse

theorem next (before : cursor.Before text) : cursor.next = cursor.advance :=
  next_of_terse before.terse

theorem expect? {front : List Char} (before : cursor.Before (front ++ text)) :
    ∃ stop, cursor.expect? front = some stop ∧ stop.Before text := by
  induction front generalizing cursor with
  | nil => exact ⟨cursor, rfl, before⟩
  | cons c front ih =>
    have seen : cursor.sees c = true := by
      rw [before.sees]
      exact beq_self_eq_true _
    obtain ⟨stop, found, stops⟩ := ih before.advance
    exact ⟨stop, by rw [Cursor.expect?, if_pos seen, found], stops⟩

/-- Characters that satisfy a predicate are taken up to the first one that does not. -/
theorem takeWhile {p : Char → Bool} (before : cursor.Before (text ++ more))
    (holds : ∀ c ∈ text, p c = true) (stops : ∀ c, more.head? = some c → p c = false)
    {bound : Nat} (enough : cursor.rest.length ≤ bound) :
    ∃ letters last, Cursor.takeWhile p Cursor.advance bound cursor = (letters, last) ∧
      letters.map Prod.fst = text ∧ last.Before more := by
  obtain ⟨letters, stop, verbose⟩ := takeWhile_advance p enough
  have none : more.takeWhile p = [] ∧ more.dropWhile p = more := by
    cases more with
    | nil => exact ⟨rfl, rfl⟩
    | cons c rest =>
      have fails := stops c rfl
      simp [fails]
  rw [before.rest, List.takeWhile_append_of_pos holds, none.1, List.append_nil] at letters
  rw [before.rest, List.dropWhile_append_of_pos holds, none.2] at stop
  exact ⟨_, _, rfl, letters, stop, verbose.trans before.terse⟩

theorem spanWhile {p : Char → Bool} (before : cursor.Before (text ++ more))
    (holds : ∀ c ∈ text, p c = true) (stops : ∀ c, more.head? = some c → p c = false) :
    ∃ letters last, cursor.spanWhile p = (letters, last) ∧ letters.map Prod.fst = text ∧
      last.Before more := by
  rw [Cursor.spanWhile, takeWhile_next_of_terse p _ before.terse]
  exact before.takeWhile holds stops (Nat.le_refl _)

end Before

theorem eq_append_of_expect? {front : List Char} {stop : Cursor}
    (found : cursor.expect? front = some stop) :
    cursor.rest = front ++ stop.rest ∧ stop.verbose = cursor.verbose := by
  induction front generalizing cursor with
  | nil =>
    cases found
    exact ⟨rfl, rfl⟩
  | cons c front ih =>
    rw [expect?] at found
    split at found
    · rename_i seen
      obtain ⟨others, rest⟩ := exists_rest_of_sees seen
      obtain ⟨after, verbose⟩ := ih found
      rw [rest_advance, rest, List.tail_cons] at after
      exact ⟨by rw [rest, after, List.cons_append], by rw [verbose, verbose_advance]⟩
    · cases found

/-- What is taken from a text that satisfies a predicate, and where it ends. -/
theorem spanWhile_of_terse (p : Char → Bool) (terse : cursor.verbose = false) :
    (cursor.spanWhile p).1.map Prod.fst = cursor.rest.takeWhile p ∧
      (cursor.spanWhile p).2.rest = cursor.rest.dropWhile p ∧
      (cursor.spanWhile p).2.verbose = false := by
  rw [spanWhile, takeWhile_next_of_terse p _ terse, ← terse]
  exact takeWhile_advance p (Nat.le_refl _)

end Cursor

/-- What has been read is found again where it is printed, before every text that follows it as the
original text does. What is read may depend on what stood before the text, which `ι` tells apart. -/
structure Rereads {ι α : Type} (read : ι → Cursor → Except SyntaxError (α × Cursor)) (bare : α → α)
    (print : α → List Char) (found : α) (last : Cursor) : Prop where
  terse : last.verbose = false
  again : ∀ text long start, Follows last.rest text → long.Before (print found ++ text) →
    ∃ twin stop, read start long = .ok (twin, stop) ∧ bare twin = bare found ∧ stop.Before text

end SchemaMatch.Syntax
