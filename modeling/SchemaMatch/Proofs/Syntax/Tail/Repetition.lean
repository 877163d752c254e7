import SchemaMatch.Proofs.Syntax.Tail.Escape
import SchemaMatch.Syntax.Repetition

/-!
# Repetition operators before a longer text

An operator repeats the same item, but for places, and takes the same signs when a closing tail
follows the pattern.
-/

namespace SchemaMatch.Syntax.Repetition

open Cursor
open Escape (isEmpty_of_map foldl_of_map)

/-- The item that an operator applies to does not depend on places. -/
theorem operand_of_bare {reversed others before : List Ast} {sub : Ast} {cursor : Cursor}
    (far : Cursor)
    (same : others.map Ast.bare = reversed.map Ast.bare)
    (success : operand reversed cursor = .ok (sub, before)) :
    ∃ twin rest, operand others far = .ok (twin, rest) ∧ twin.bare = sub.bare ∧
      rest.map Ast.bare = before.map Ast.bare := by
  match reversed, others, same with
  | [], _, _ => cases success
  | first :: _, twin :: rest, same =>
    obtain ⟨head, tails⟩ := List.cons.inj same
    simp only [operand] at success ⊢
    split at success
    · rename_i repeatable
      cases success
      refine ⟨twin, rest, if_pos ?_, head, tails⟩
      rw [← isRepeatable_bare, head, isRepeatable_bare]
      exact repeatable
    · cases success

theorem laziness_extends {short long : Cursor} {tail : List Char} (same : short.Extends tail long)
    (other : tail.head? ≠ some '?') :
    (laziness long).1 = (laziness short).1 ∧
      (laziness short).2.Extends tail (laziness long).2 := by
  simp only [laziness, same.sees_of_ne other]
  split
  · rename_i lazy
    exact ⟨rfl, same.advance (rest_ne_nil_of_sees lazy)⟩
  · exact ⟨rfl, same⟩

theorem laziness_suffix (cursor : Cursor) : (laziness cursor).2.rest <:+ cursor.rest := by
  unfold laziness
  split
  · exact (advance_suffix cursor).trans (List.tail_suffix _)
  · exact List.suffix_refl _

/-- The lists of items that are equal but for places. -/
abbrev Alike (reversed : List Ast) : Type :=
  { others : List Ast // others.map Ast.bare = reversed.map Ast.bare }

theorem parse_persists {kind : RepetitionKind} {reversed found : List Ast} {short last : Cursor}
    (left : short.rest ≠ []) (success : parse kind reversed short = .ok (found, last)) :
    Persists (fun others : Alike reversed => parse kind others) (List.map Ast.bare) short found
      last := by
  obtain ⟨⟨sub, before⟩, applies, _⟩ := bind_eq_ok_iff.1 success
  simp only [parse, applies, ok_bind, Except.ok.injEq, Prod.mk.injEq] at success
  obtain ⟨rfl, rfl⟩ := success
  refine .of_open ((laziness_suffix _).trans (advance_suffix short))
    fun tail long others head same => ?_
  obtain ⟨twin, rest, success, alike, rests⟩ := operand_of_bare long others.2 applies
  have other : tail.head? ≠ some '?' := by
    rw [head]
    decide
  obtain ⟨greedy, stops⟩ := laziness_extends (same.advance left) other
  refine ⟨apply twin kind (laziness long.advance).1 (laziness long.advance).2 :: rest,
    (laziness long.advance).2, by simp only [parse, success, ok_bind], ?_, stops⟩
  simp only [List.map_cons, apply, Ast.bare, alike, rests, greedy]

theorem snd_decimal (cursor : Cursor) : (decimal cursor).2 =
    ((((takeWhile Unicode.isBlank advance cursor.rest.length cursor).2.spanWhile
      Char.isDigit).2).spanWhile Unicode.isBlank).2 := by
  simp only [decimal]
  split
  · rfl
  · split <;> rfl

/-- A number is found again with the blanks around it, if something follows. -/
theorem decimal_extends {short long : Cursor} {tail : List Char} (same : short.Extends tail long)
    (left : (decimal short).2.rest ≠ []) :
    (∀ value, (decimal short).1 = .ok value → (decimal long).1 = .ok value) ∧
      (decimal short).2.rest <:+ short.rest ∧
      (decimal short).2.Extends tail (decimal long).2 := by
  rw [snd_decimal] at left
  have digits := ne_nil_of_suffix (spanWhile_suffix _ _) left
  have blanks := ne_nil_of_suffix (spanWhile_suffix _ _) digits
  obtain ⟨_, starts⟩ := takeWhile_extends advance_suffix
    (fun _ _ same further => same.advance fun empty => further (by simp [empty]))
    (Nat.le_refl short.rest.length) (Nat.le_refl long.rest.length) blanks same
  obtain ⟨letters, stops⟩ := starts.spanWhile digits
  obtain ⟨_, ends⟩ := stops.spanWhile left
  refine ⟨fun value success => ?_, ?_, ?_⟩
  · simp only [decimal, isEmpty_of_map letters,
      foldl_of_map (fun value digit => 10 * value + (digit.toNat - 48)) letters] at success ⊢
    split at success
    · cases success
    · rename_i some
      split at success
      · rename_i small
        simp only [some, small, if_true, if_false, Bool.false_eq_true]
        exact success
      · cases success
  · rw [snd_decimal]
    exact ((spanWhile_suffix _ _).trans (spanWhile_suffix _ _)).trans
      (takeWhile_suffix advance_suffix ..)
  · rw [snd_decimal, snd_decimal]
    exact ends

/-- The numbers of a count are found again, if something follows. -/
theorem countRange_extends (other : Cursor → SyntaxError) {unclosed : Cursor → SyntaxError}
    {first twin : Except SyntaxError Nat} {short last : Cursor} {range : CountRange}
    (left : short.rest ≠ []) (ends : last.rest ≠ [])
    (success : countRange unclosed first short = .ok (range, last))
    (alike : ∀ value, first = .ok value → twin = .ok value) {tail : List Char} {long : Cursor}
    (same : short.Extends tail long) :
    last.rest <:+ short.rest ∧
      ∃ stop, countRange other twin long = .ok (range, stop) ∧ last.Extends tail stop := by
  simp only [countRange, same.sees_of_ne_nil left] at success ⊢
  split at success
  · rename_i comma
    obtain ⟨unfinished, success⟩ := unless_eq_ok_iff.1 success
    rw [Bool.not_eq_true, atEnd_eq_false_iff] at unfinished
    have met := same.next unfinished
    have shorter := (next_suffix short).trans (List.tail_suffix _)
    split at success
    · rename_i brace
      obtain ⟨value, known, equal⟩ := bind_eq_ok_iff.1 success
      cases equal
      refine ⟨shorter, long.next, ?_, met⟩
      simp only [comma, met.atEnd unfinished, met.sees_of_ne_nil unfinished, brace,
        alike value known, if_true, if_false, Bool.false_eq_true, ok_bind]
    · rename_i noBrace
      obtain ⟨value, known, success⟩ := bind_eq_ok_iff.1 success
      obtain ⟨most, number, equal⟩ := bind_eq_ok_iff.1 success
      cases equal
      obtain ⟨values, suffix, stops⟩ := decimal_extends met ends
      refine ⟨suffix.trans shorter, (decimal long.next).2, ?_, stops⟩
      simp only [comma, met.atEnd unfinished, met.sees_of_ne_nil unfinished, noBrace,
        alike value known, values most number, if_true, if_false, Bool.false_eq_true, ok_bind]
  · rename_i noComma
    obtain ⟨value, known, equal⟩ := bind_eq_ok_iff.1 success
    cases equal
    refine ⟨List.suffix_refl _, long, ?_, same⟩
    simp only [noComma, alike value known, if_false, Bool.false_eq_true, ok_bind]

theorem parseCounted_persists {reversed found : List Ast} {short last : Cursor}
    (success : parseCounted reversed short = .ok (found, last)) :
    Persists (fun others : Alike reversed => parseCounted others) (List.map Ast.bare) short found
      last := by
  simp only [parseCounted, refuse, bind_eq_ok_iff, unless_eq_ok_iff, Prod.exists] at success
  obtain ⟨sub, before, applies, unfinished, further, range, close, counts, closed, ordered,
    equal⟩ := success
  simp only [Except.ok.injEq, Prod.mk.injEq] at equal
  obtain ⟨rfl, rfl⟩ := equal
  rw [Bool.not_eq_true, atEnd_eq_false_iff] at unfinished further
  have brace : close.sees '\x7d' = true := by simpa using closed
  have some := rest_ne_nil_of_sees brace
  -- The brace is the last thing that is always there, so only what is skipped after it may hide.
  obtain ⟨hidden, empty, steps⟩ := exists_next_extends some
  have moves {tail : List Char} {long : Cursor} (same : short.Extends tail long) :=
    decimal_extends (same.next unfinished) further
  have passes {tail : List Char} {long : Cursor} (same : short.Extends tail long) :=
    countRange_extends (fun cursor => ⟨.repetitionCountUnclosed,
        cursor.since long.position, none⟩) further some counts (moves same).1 (moves same).2.2
  have whole : short.Extends [] short := .refl short
  refine ⟨?_, hidden, fun hides => ?_, fun tail long others closes same => ?_⟩
  · exact (laziness_suffix _).trans (((next_suffix close).trans (List.tail_suffix _)).trans
      ((passes whole).1.trans ((moves whole).2.1.trans (next_suffix short))))
  · exact List.suffix_nil.1 (empty hides ▸ laziness_suffix close.next)
  · obtain ⟨twin, rest, success, alike, rests⟩ := operand_of_bare long others.2 applies
    have met := same.next unfinished
    obtain ⟨_, stop, counts, stops⟩ := passes same
    have after := steps tail stop closes stops
    obtain ⟨greedy, ends⟩ := laziness_extends after (closes.head?_remaining_ne (by decide))
    refine ⟨apply twin (.counted range) (laziness stop.next).1 (laziness stop.next).2 :: rest,
      (laziness stop.next).2, ?_, ?_, ends⟩
    · simp only [parseCounted, success, ok_bind, met.atEnd unfinished,
        (moves same).2.2.atEnd further, counts, stops.sees_of_ne_nil some, brace, ordered,
        Bool.not_true, if_false, Bool.false_eq_true]
    · simp only [List.map_cons, apply, Ast.bare, alike, rests, greedy]

end SchemaMatch.Syntax.Repetition
