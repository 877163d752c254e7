import SchemaMatch.Proofs.Syntax.Print.Bracket
import SchemaMatch.Proofs.Syntax.Tail.Repetition

/-!
# Printed operators

An operator is found again where it is printed after the item that it repeats. The numbers of a
count print without the blanks and zeros that may have stood around them, but begin with a digit
still.
-/

namespace SchemaMatch.Syntax.Repetition

open Cursor

theorem not_isBlank_of_isDigit {c : Char} (digit : c.isDigit = true) :
    Unicode.isBlank c = false :=
  forall_of_isDigit (P := fun c => Unicode.isBlank c = false) (by decide) digit

def lazySign (greedy : Bool) : List Char := if greedy then [] else ['?']

def printed (kind : RepetitionKind) (greedy : Bool) : List Char := kind.print ++ lazySign greedy

theorem laziness_rereads {short : Cursor} (terse : short.verbose = false) :
    (laziness short).2.verbose = false ∧
      (∀ text, Follows (laziness short).2.rest text →
        Follows short.rest (lazySign (laziness short).1 ++ text)) ∧
      ∀ text long, Follows (laziness short).2.rest text →
        long.Before (lazySign (laziness short).1 ++ text) →
        (laziness long).1 = (laziness short).1 ∧ (laziness long).2.Before text := by
  unfold laziness
  cases sign : short.sees '?' with
  | true =>
    obtain ⟨others, begins⟩ := exists_rest_of_sees sign
    refine ⟨by rw [if_pos rfl, verbose_advance, terse], fun text alike => ?_,
      fun text long alike before => ?_⟩
    · simp only [if_true, rest_advance, begins, List.tail_cons] at alike
      rw [begins]
      exact .same '?' alike
    · have sees : long.sees '?' = true := before.sees _
      rw [if_pos sees]
      exact ⟨rfl, before.advance⟩
  | false =>
    refine ⟨terse, fun text alike => alike, fun text long alike before => ?_⟩
    have follows : Follows short.rest text := alike
    have sees : long.sees '?' = false :=
      (before.sees_of_follows follows (by decide)).trans sign
    rw [sees]
    exact ⟨rfl, before⟩

/-- An operator has been read, and is read again where it is printed. -/
structure Applies (read : List Ast → Cursor → Except SyntaxError (List Ast × Cursor))
    (reversed : List Ast) (short : Cursor) (found : List Ast) (last : Cursor) : Prop where
  terse : last.verbose = false
  again : ∃ sub before kind greedy, operand reversed short = .ok (sub, before) ∧
    found = apply sub kind greedy last :: before ∧
    (∀ text, Follows last.rest text → Follows short.rest (printed kind greedy ++ text)) ∧
    (∃ more, ∀ c, short.peek? = some c → printed kind greedy = c :: more) ∧
    ∀ text long others twin rest, Follows last.rest text →
      long.Before (printed kind greedy ++ text) → operand others long = .ok (twin, rest) →
      ∃ stop, read others long = .ok (apply twin kind greedy stop :: rest, stop) ∧
        stop.Before text

theorem parse_rereads {kind : RepetitionKind} {c : Char} {reversed found : List Ast}
    {short last : Cursor} (terse : short.verbose = false) (seen : short.peek? = some c)
    (sign : kind.print = [c]) (success : parse kind reversed short = .ok (found, last)) :
    Applies (parse kind) reversed short found last := by
  obtain ⟨others, begins⟩ := exists_rest_of_peek? seen
  obtain ⟨⟨sub, before⟩, applies, _⟩ := bind_eq_ok_iff.1 success
  simp only [parse, applies, ok_bind, Except.ok.injEq, Prod.mk.injEq] at success
  obtain ⟨rfl, rfl⟩ := success
  have inside : short.advance.verbose = false := by rw [verbose_advance, terse]
  obtain ⟨still, follows, again⟩ := laziness_rereads inside
  refine ⟨still, sub, before, kind, (laziness short.advance).1, applies, rfl, fun text alike => ?_,
    ?_, fun text long others twin rest alike before applied => ?_⟩
  · have after := follows text alike
    rw [rest_advance, begins, List.tail_cons] at after
    rw [begins, printed, sign]
    exact .same c after
  · refine ⟨lazySign (laziness short.advance).1, fun d head => ?_⟩
    rw [seen] at head
    cases head
    rw [printed, sign]
    rfl
  · rw [printed, sign] at before
    obtain ⟨same, stops⟩ := again text long.advance alike before.advance
    refine ⟨(laziness long.advance).2, ?_, stops⟩
    simp only [parse, applied, ok_bind, same]

/-- A number is found again where it is printed, before what is neither a digit nor a blank. -/
theorem decimal_of_before {n : Nat} {c : Char} {text : List Char} {long : Cursor}
    (before : long.Before (decimalText n ++ c :: text)) (small : n < Nat.pow 2 32)
    (noDigit : c.isDigit = false) (noBlank : Unicode.isBlank c = false) :
    ∃ stop, decimal long = (.ok n, stop) ∧ stop.Before (c :: text) := by
  have digits : ∀ d ∈ decimalText n, d.isDigit = true := fun d member =>
    isDigit_of_mem_decimalText member
  obtain ⟨d, more, begins⟩ := List.exists_cons_of_ne_nil (decimalText_ne_nil n)
  have here : long.Before ([] ++ (decimalText n ++ c :: text)) := before
  obtain ⟨_, start, skipped, _, starts⟩ := here.takeWhile (p := Unicode.isBlank) nofun
    (fun e head => by
      rw [begins] at head
      cases head
      exact not_isBlank_of_isDigit (digits d (begins ▸ List.mem_cons_self))) (Nat.le_refl _)
  obtain ⟨letters, mid, taken, spelled, meets⟩ := starts.spanWhile digits fun e head => by
    cases head
    exact noDigit
  have there : mid.Before ([] ++ c :: text) := meets
  obtain ⟨_, stop, passed, _, stops⟩ := there.spanWhile (p := Unicode.isBlank) nofun fun e head => by
    cases head
    exact noBlank
  have value : letters.foldl (fun value digit => 10 * value + (digit.1.toNat - 48)) 0 = n := by
    rw [← foldl_decimalText n, ← spelled, List.foldl_map]
  have some : letters.isEmpty = false := by
    rw [← List.isEmpty_map (f := Prod.fst), spelled, List.isEmpty_eq_false_iff]
    exact decimalText_ne_nil n
  refine ⟨stop, ?_, stops⟩
  simp only [decimal, skipped, taken, passed, value, some, small, if_true, if_false,
    Bool.false_eq_true]

theorem lt_of_decimal {short : Cursor} {value : Nat} (success : (decimal short).1 = .ok value) :
    value < Nat.pow 2 32 := by
  simp only [decimal] at success
  split at success
  · cases success
  · split at success
    · rename_i small
      cases success
      exact small
    · cases success

theorem exists_digit (range : CountRange) :
    ∃ d more, range.print = d :: more ∧ d.isDigit = true := by
  have begins (n : Nat) (text : List Char) :
      ∃ d more, decimalText n ++ text = d :: more ∧ d.isDigit = true := by
    obtain ⟨d, more, digits⟩ := List.exists_cons_of_ne_nil (decimalText_ne_nil n)
    exact ⟨d, more ++ text, by rw [digits, List.cons_append],
      isDigit_of_mem_decimalText (digits ▸ List.mem_cons_self)⟩
  cases range with
  | exactly count =>
    obtain ⟨d, more, digits, digit⟩ := begins count []
    rw [List.append_nil] at digits
    exact ⟨d, more, digits, digit⟩
  | atLeast min => exact begins min [',']
  | bounded min max => exact begins min (',' :: decimalText max)

/-- The numbers of a count are found again where they are printed, up to the closing brace. -/
theorem countRange_rereads {unclosed : Cursor → SyntaxError} {short last : Cursor}
    {range : CountRange} (other : Cursor → SyntaxError)
    (success : countRange unclosed (decimal short).1 (decimal short).2 = .ok (range, last))
    {text : List Char} {long : Cursor} (before : long.Before (range.print ++ '\x7d' :: text)) :
    (decimal long).2.atEnd = false ∧
      ∃ stop, countRange other (decimal long).1 (decimal long).2 = .ok (range, stop) ∧
        stop.Before ('\x7d' :: text) := by
  have brace {stop : Cursor} (stops : stop.Before ('\x7d' :: text)) :
      stop.sees ',' = false ∧ stop.sees '\x7d' = true ∧ stop.atEnd = false :=
    ⟨stops.sees _, stops.sees _, stops.atEnd⟩
  simp only [countRange] at success
  split at success
  · obtain ⟨_, success⟩ := unless_eq_ok_iff.1 success
    split at success
    · obtain ⟨min, known, equal⟩ := bind_eq_ok_iff.1 success
      cases equal
      rw [CountRange.print, List.append_assoc] at before
      obtain ⟨stop, number, stops⟩ :=
        decimal_of_before before (lt_of_decimal known) (by decide) (by decide)
      have comma : stop.sees ',' = true := stops.sees _
      obtain ⟨_, closes, left⟩ := brace stops.advance
      refine ⟨by rw [number, stops.atEnd]; rfl, stop.advance, ?_, stops.advance⟩
      simp only [countRange, number, comma, stops.next, left, closes, ok_bind, if_true, if_false,
        Bool.false_eq_true]
    · obtain ⟨min, known, success⟩ := bind_eq_ok_iff.1 success
      obtain ⟨max, most, equal⟩ := bind_eq_ok_iff.1 success
      cases equal
      rw [CountRange.print, List.append_assoc, List.cons_append] at before
      obtain ⟨stop, number, stops⟩ :=
        decimal_of_before before (lt_of_decimal known) (by decide) (by decide)
      have comma : stop.sees ',' = true := stops.sees _
      obtain ⟨close, second, closes⟩ :=
        decimal_of_before stops.advance (lt_of_decimal most) (by decide) (by decide)
      obtain ⟨d, more, digits, digit⟩ := exists_digit (.exactly max)
      have begins : stop.advance.Before (d :: (more ++ '\x7d' :: text)) := by
        rw [← List.cons_append, ← digits]
        exact stops.advance
      have noBrace : stop.advance.sees '\x7d' = false := by
        rw [begins.sees, ← Bool.not_eq_true, beq_iff_eq]
        intro equal
        cases equal
        cases digit
      refine ⟨by rw [number, stops.atEnd]; rfl, close, ?_, closes⟩
      simp only [countRange, number, comma, stops.next, begins.atEnd, List.isEmpty_cons, noBrace,
        second, ok_bind, if_true, if_false, Bool.false_eq_true]
  · obtain ⟨count, known, equal⟩ := bind_eq_ok_iff.1 success
    cases equal
    obtain ⟨stop, number, stops⟩ :=
      decimal_of_before before (lt_of_decimal known) (by decide) (by decide)
    obtain ⟨noComma, _, left⟩ := brace stops
    refine ⟨by rw [number, left], stop, ?_, stops⟩
    simp only [countRange, number, noComma, ok_bind, if_false, Bool.false_eq_true]

/-- What reads the numbers of a count does not leave a mode. -/
theorem verbose_decimal {short : Cursor} (terse : short.verbose = false) :
    (decimal short).2.verbose = false := by
  have start := (takeWhile_advance Unicode.isBlank (Nat.le_refl short.rest.length)).2.2
  rw [snd_decimal]
  exact (spanWhile_of_terse _ (spanWhile_of_terse _ (start.trans terse)).2.2).2.2

theorem verbose_countRange {unclosed : Cursor → SyntaxError} {first : Except SyntaxError Nat}
    {short last : Cursor} {range : CountRange} (terse : short.verbose = false)
    (success : countRange unclosed first short = .ok (range, last)) : last.verbose = false := by
  simp only [countRange, next_of_terse terse] at success
  have after : short.advance.verbose = false := by rw [verbose_advance, terse]
  split at success
  · obtain ⟨_, success⟩ := unless_eq_ok_iff.1 success
    split at success
    · obtain ⟨_, _, equal⟩ := bind_eq_ok_iff.1 success
      cases equal
      exact after
    · obtain ⟨_, _, success⟩ := bind_eq_ok_iff.1 success
      obtain ⟨_, _, equal⟩ := bind_eq_ok_iff.1 success
      cases equal
      exact verbose_decimal after
  · obtain ⟨_, _, equal⟩ := bind_eq_ok_iff.1 success
    cases equal
    exact terse

theorem parseCounted_rereads {reversed found : List Ast} {short last : Cursor}
    (terse : short.verbose = false) (seen : short.peek? = some '\x7b')
    (success : parseCounted reversed short = .ok (found, last)) :
    Applies parseCounted reversed short found last := by
  obtain ⟨others, begins⟩ := exists_rest_of_peek? seen
  simp only [parseCounted, refuse, bind_eq_ok_iff, unless_eq_ok_iff, Prod.exists,
    next_of_terse terse] at success
  obtain ⟨sub, before, applies, _, _, range, close, counts, _, ordered, equal⟩ := success
  have inside : short.advance.verbose = false := by rw [verbose_advance, terse]
  have closed := verbose_countRange (verbose_decimal inside) counts
  rw [next_of_terse closed] at equal
  cases equal
  have after : close.advance.verbose = false := by rw [verbose_advance, closed]
  obtain ⟨still, _, again⟩ := laziness_rereads after
  have spelled (greedy : Bool) : printed (.counted range) greedy =
      '\x7b' :: (range.print ++ '\x7d' :: lazySign greedy) := by
    simp [printed, RepetitionKind.print, inBraces, openBrace, closeBrace]
  refine ⟨still, sub, before, .counted range, (laziness close.advance).1, applies, rfl,
    fun text alike => ?_, ?_, fun text long others twin rest alike before applied => ?_⟩
  · obtain ⟨d, more, digits, digit⟩ := exists_digit range
    rw [begins, spelled, digits]
    exact .count _ _ digit
  · refine ⟨range.print ++ '\x7d' :: lazySign (laziness close.advance).1, fun d head => ?_⟩
    rw [seen] at head
    cases head
    exact spelled _
  · rw [spelled, List.cons_append, List.append_assoc, List.cons_append] at before
    obtain ⟨further, stop, counts, stops⟩ := countRange_rereads
      (fun cursor => ⟨.repetitionCountUnclosed, cursor.since long.position, none⟩)
      counts before.advance
    have unfinished : long.advance.atEnd = false := by
      obtain ⟨d, more, digits, _⟩ := exists_digit range
      rw [before.advance.atEnd, digits]
      rfl
    have brace : stop.sees '\x7d' = true := stops.sees _
    obtain ⟨same, ends⟩ := again text stop.advance alike stops.advance
    refine ⟨(laziness stop.advance).2, ?_, ends⟩
    simp only [parseCounted, applied, ok_bind, before.next, unfinished, further, counts, brace,
      stops.next, ordered, same, Bool.not_true, if_false, Bool.false_eq_true]

end SchemaMatch.Syntax.Repetition
