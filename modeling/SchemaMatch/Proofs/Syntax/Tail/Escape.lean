import SchemaMatch.Proofs.Success
import SchemaMatch.Proofs.Syntax.Bare
import SchemaMatch.Proofs.Syntax.Tail.Cursor

/-!
# Escapes before a longer text

What a backslash begins is found again when a closing tail follows the pattern. `Persists` says
this of any reader: it goes forward, and before a tail it finds the same but for places and stops
at the same place, with the tail left unless a comment hides it.
-/

namespace SchemaMatch.Syntax

open Cursor

/-- A reader has taken something from a text and takes the same, but for places, before a tail. What
it reads may depend on what stood before the text, which `ι` tells apart. -/
structure Persists {ι α : Type} (read : ι → Cursor → Except SyntaxError (α × Cursor))
    (bare : α → α) (short : Cursor) (found : α) (last : Cursor) : Prop where
  shorter : last.rest <:+ short.rest.tail
  again : ∃ hidden, (hidden = true → last.rest = []) ∧
    ∀ tail long start, Closes hidden tail → short.Extends tail long →
      ∃ other stop, read start long = .ok (other, stop) ∧ bare other = bare found ∧
        last.Extends (remaining hidden tail) stop

namespace Persists

variable {ι κ α : Type} {read : ι → Cursor → Except SyntaxError (α × Cursor)}
  {bare : α → α} {short last : Cursor} {found : α}

/-- A reader that skips nothing at its end hides no tail. -/
theorem of_open (shorter : last.rest <:+ short.rest.tail)
    (again : ∀ tail long start, tail.head? = some ')' → short.Extends tail long →
      ∃ other stop, read start long = .ok (other, stop) ∧ bare other = bare found ∧
        last.Extends tail stop) :
    Persists read bare short found last :=
  ⟨shorter, false, nofun, fun tail long start closes => again tail long start closes.head⟩

theorem of_next (left : last.rest ≠ []) (shorter : last.rest <:+ short.rest)
    (again : ∀ tail long start, tail.head? = some ')' → short.Extends tail long →
      ∃ other stop, read start long = .ok (other, stop.next) ∧ bare other = bare found ∧
        last.Extends tail stop) :
    Persists read bare short found last.next := by
  obtain ⟨hidden, empty, steps⟩ := exists_next_extends left
  refine ⟨(next_suffix last).trans (tail_suffix_tail shorter), hidden, empty, ?_⟩
  intro tail long start closes same
  obtain ⟨other, stop, success, alike, before⟩ := again tail long start closes.head same
  exact ⟨other, stop.next, success, alike, steps tail stop closes before⟩

/-- A reader that has not come to the end stops at the same place before every closing tail. -/
theorem of_ne_nil (persists : Persists read bare short found last) (left : last.rest ≠ [])
    {tail : List Char} {long : Cursor} (head : tail.head? = some ')')
    (same : short.Extends tail long) (start : ι) :
    ∃ other stop, read start long = .ok (other, stop) ∧ bare other = bare found ∧
      last.Extends tail stop := by
  obtain ⟨hidden, empty, again⟩ := persists.again
  cases hidden with
  | true => exact absurd (empty rfl) left
  | false => exact again tail long start ⟨head, nofun⟩ same

theorem of_reads {other : ι → Cursor → Except SyntaxError (α × Cursor)}
    (persists : Persists read bare short found last)
    (reads : ∀ tail long start, short.Extends tail long → other start long = read start long) :
    Persists other bare short found last := by
  obtain ⟨hidden, empty, again⟩ := persists.again
  refine ⟨persists.shorter, hidden, empty, fun tail long start closes same => ?_⟩
  rw [reads tail long start same]
  exact again tail long start closes same

/-- A reader that first takes a step, with what is skipped after it, and then reads on. -/
theorem after_next {other : ι → Cursor → Except SyntaxError (α × Cursor)}
    (persists : Persists read bare short.next found last) (left : short.next.rest ≠ [])
    (reads : ∀ tail long start, short.next.Extends tail long.next →
      other start long = read start long.next) :
    Persists other bare short found last := by
  obtain ⟨hidden, empty, again⟩ := persists.again
  refine ⟨(persists.shorter.trans (List.tail_suffix _)).trans (next_suffix short), hidden, empty,
    fun tail long start closes same => ?_⟩
  rw [reads tail long start (same.next left)]
  exact again tail long.next start closes (same.next left)

theorem after_advance {other : κ → Cursor → Except SyntaxError (α × Cursor)}
    (persists : Persists read bare short.advance found last) (left : short.rest ≠ [])
    (reads : ∀ tail long start, short.advance.Extends tail long.advance →
      ∃ begin, other start long = read begin long.advance) :
    Persists other bare short found last := by
  obtain ⟨hidden, empty, again⟩ := persists.again
  refine ⟨(persists.shorter.trans (List.tail_suffix _)).trans (advance_suffix short), hidden,
    empty, fun tail long start closes same => ?_⟩
  have met := same.advance left
  obtain ⟨begin, equal⟩ := reads tail long start met
  rw [equal]
  exact again tail long.advance begin closes met

end Persists

namespace Escape

/-- The digits of an escape without braces end at a digit, and a tail adds none. -/
theorem fixedDigits_extends {count : Nat} {isFirst : Bool} {short last : Cursor}
    {digits : List Char} (left : short.rest ≠ [])
    (success : fixedDigits count isFirst short = .ok (digits, last)) :
    last.rest ≠ [] ∧ last.rest <:+ short.rest ∧
      ∀ tail long, short.Extends tail long →
        ∃ stop, fixedDigits count isFirst long = .ok (digits, stop) ∧
          last.Extends tail stop := by
  induction count generalizing isFirst short digits with
  | zero =>
    cases success
    exact ⟨left, List.suffix_refl _, fun tail long same => ⟨long, rfl, same⟩⟩
  | succ count ih =>
    have moved : (if isFirst then short else short.next).rest <:+ short.rest := by
      split
      · exact List.suffix_refl _
      · exact (next_suffix short).trans (List.tail_suffix _)
    have moves (tail : List Char) (long : Cursor) (same : short.Extends tail long)
        (inside : (if isFirst then short else short.next).rest ≠ []) :
        (if isFirst then short else short.next).Extends tail
          (if isFirst then long else long.next) := by
      cases isFirst with
      | true => exact same
      | false => exact same.next inside
    simp only [fixedDigits] at success ⊢
    generalize (if isFirst then short else short.next) = here at success moved moves ⊢
    cases seen : here.peek? with
    | none => simp [seen, refuse] at success
    | some c =>
      simp only [seen] at success
      split at success
      · rename_i digit
        obtain ⟨⟨others, stop⟩, rest, equal⟩ := bind_eq_ok_iff.1 success
        cases equal
        have inside := rest_ne_nil_of_peek? seen
        obtain ⟨left, shorter, again⟩ := ih inside rest
        refine ⟨left, shorter.trans moved, fun tail long same => ?_⟩
        have met := moves tail long same inside
        obtain ⟨stop, success, stops⟩ := again tail _ met
        refine ⟨stop, ?_, stops⟩
        simp only [met.peek?_of_some seen, if_pos digit, success]
        rfl
      · cases success

theorem hexChar_elsewhere {digits : List Char} {span : Span} {c : Char}
    (named : hexChar digits span = .ok c) (other : Span) : hexChar digits other = .ok c := by
  unfold hexChar at named ⊢
  split at named
  · exact named
  · cases named

theorem hexWithoutBraces_persists {start : Position} {width : HexWidth} {short last : Cursor}
    {found : Primitive} (left : short.rest ≠ [])
    (success : hexWithoutBraces start width short = .ok (found, last)) :
    Persists (fun start => hexWithoutBraces start width) Primitive.bare short found last := by
  obtain ⟨⟨digits, mid⟩, taken, rest⟩ := bind_eq_ok_iff.1 success
  obtain ⟨c, named, equal⟩ := bind_eq_ok_iff.1 rest
  cases equal
  obtain ⟨inside, shorter, again⟩ := fixedDigits_extends left taken
  refine .of_next inside shorter fun tail long start head same => ?_
  obtain ⟨stop, success, stops⟩ := again tail long same
  refine ⟨.literal ⟨stop.next.since start, .hexDigits width, c⟩, stop, ?_, rfl, stops⟩
  simp only [hexWithoutBraces, success, ok_bind, hexChar_elsewhere named]

theorem braced_extends {short long : Cursor} {tail : List Char} (same : short.Extends tail long)
    (closed : (braced short).2.rest ≠ []) :
    (braced long).1.map Prod.fst = (braced short).1.map Prod.fst ∧
      (braced short).2.Extends tail (braced long).2 := by
  have inside := ne_nil_of_suffix (spanWhile_suffix short.next _) closed
  exact (same.next inside).spanWhile closed

theorem braced_suffix (cursor : Cursor) : (braced cursor).2.rest <:+ cursor.rest.tail :=
  (spanWhile_suffix _ _).trans (next_suffix cursor)

theorem find?_eq_none_of_map {letters others : List (Char × Position)}
    (same : others.map Prod.fst = letters.map Prod.fst)
    (valid : letters.find? (fun digit => !isHexDigit digit.1) = none) :
    others.find? (fun digit => !isHexDigit digit.1) = none := by
  rw [List.find?_eq_none] at valid ⊢
  intro letter member
  have found : letter.1 ∈ letters.map Prod.fst := same ▸ List.mem_map_of_mem member
  obtain ⟨twin, member, equal⟩ := List.mem_map.1 found
  exact equal ▸ valid twin member

theorem isEmpty_of_map {letters others : List (Char × Position)}
    (same : others.map Prod.fst = letters.map Prod.fst) :
    others.isEmpty = letters.isEmpty := by
  rw [← List.isEmpty_map (f := Prod.fst), same, List.isEmpty_map]

theorem hexInBraces_persists {start : Position} {width : HexWidth} {short last : Cursor}
    {found : Primitive} (success : hexInBraces start width short = .ok (found, last)) :
    Persists (fun start => hexInBraces start width) Primitive.bare short found last := by
  simp only [hexInBraces] at success
  split at success
  · cases success
  · rename_i valid
    split at success
    · cases success
    · rename_i unfinished
      split at success
      · cases success
      · rename_i empty
        obtain ⟨c, named, equal⟩ := bind_eq_ok_iff.1 success
        cases equal
        have closed : (braced short).2.rest ≠ [] := by
          rw [← atEnd_eq_false_iff]
          simpa using unfinished
        refine .of_next closed ((braced_suffix short).trans (List.tail_suffix _))
          fun tail long start head same => ?_
        obtain ⟨letters, stops⟩ := braced_extends same closed
        refine ⟨.literal ⟨(braced long).2.next.since start, .hexBraces width, c⟩,
          (braced long).2, ?_, rfl, stops⟩
        simp only [hexInBraces, find?_eq_none_of_map letters valid, stops.atEnd closed,
          isEmpty_of_map letters, empty, letters, hexChar_elsewhere named, ok_bind,
          Bool.false_eq_true, if_false]

theorem hex_persists {start : Position} {width : HexWidth} {short last : Cursor}
    {found : Primitive} (success : hex start width short = .ok (found, last)) :
    Persists (fun start => hex start width) Primitive.bare short found last := by
  simp only [hex] at success
  cases seen : short.next.peek? with
  | none => simp [seen, refuse] at success
  | some c =>
    simp only [seen] at success
    have inside := rest_ne_nil_of_peek? seen
    split at success
    · rename_i brace
      refine (hexInBraces_persists success).after_next inside fun tail long start met => ?_
      simp only [hex, met.peek?_of_some seen, if_pos brace]
    · rename_i brace
      refine (hexWithoutBraces_persists inside success).after_next inside
        fun tail long start met => ?_
      simp only [hex, met.peek?_of_some seen, if_neg brace]

theorem foldl_of_map (value : Nat → Char → Nat) {letters others : List (Char × Position)}
    (same : others.map Prod.fst = letters.map Prod.fst) (first : Nat) :
    others.foldl (fun sum letter => value sum letter.1) first =
      letters.foldl (fun sum letter => value sum letter.1) first := by
  rw [← List.foldl_map, same, List.foldl_map]

theorem octal_persists {start : Position} {short : Cursor} {c : Char}
    (seen : short.peek? = some c) (digit : '0' ≤ c ∧ c ≤ '7') :
    Persists (fun start cursor => .ok (octal start cursor)) Primitive.bare short
      (octal start short).1 (octal start short).2 := by
  have shorter : (octal start short).2.rest <:+ short.rest.tail := by
    have taken : ('0' ≤ c && c ≤ '7') = true := by simpa using digit
    simp only [octal, takeWhile, seen, taken, if_true]
    rw [← rest_advance]
    exact takeWhile_suffix advance_suffix 2 short.advance
  refine .of_open shorter fun tail long start head same => ?_
  obtain ⟨letters, stops⟩ :=
    takeWhile_advance_extends (p := fun c => '0' ≤ c && c ≤ '7') (by decide) 3 head same
  refine ⟨(octal start long).1, (octal start long).2, rfl, ?_, stops⟩
  simp only [octal, Primitive.bare, Literal.bare,
    foldl_of_map (fun value digit => 8 * value + (digit.toNat - 48)) letters]

theorem propertyClass_persists {start : Position} {negated : Bool} {short last : Cursor}
    {found : Primitive} (success : propertyClass start negated short = .ok (found, last)) :
    Persists (fun start => propertyClass start negated) Primitive.bare short found last := by
  simp only [propertyClass] at success
  split at success
  · cases success
  · rename_i brace
    have inside := rest_ne_nil_of_peek? brace
    split at success
    · cases success
    · rename_i unfinished
      cases success
      have closed : (braced short.next).2.rest ≠ [] := by
        rw [← atEnd_eq_false_iff]
        simpa using unfinished
      refine .of_open ?_ fun tail long start head same => ?_
      · rw [rest_advance]
        exact ((List.tail_suffix _).trans (braced_suffix _)).trans
          ((List.tail_suffix _).trans (next_suffix short))
      · have met := same.next inside
        obtain ⟨letters, stops⟩ := braced_extends met closed
        refine ⟨.property ⟨(braced long.next).2.advance.since start, negated,
          propertyQuery ((braced short.next).1.map Prod.fst)⟩, _, ?_, rfl, stops.advance closed⟩
        simp only [propertyClass, met.peek?_of_some brace, stops.atEnd closed, letters,
          Bool.false_eq_true, if_false]
  · cases success
  · rename_i c notBrace notEscape seen
    cases success
    have inside := rest_ne_nil_of_peek? seen
    refine .of_next inside ((next_suffix short).trans (List.tail_suffix _))
      fun tail long start head same => ?_
    have met := same.next inside
    refine ⟨.property ⟨long.next.next.since start, negated, .oneLetter c⟩, long.next, ?_, rfl, met⟩
    simp only [propertyClass, met.peek?_of_some seen]

/-- A word boundary reads on after its letter, over the braces that name it if there are any. -/
theorem wordBoundary_extends {start : Position} {short last : Cursor} {found : Primitive}
    (success : wordBoundary start short = .ok (found, last)) :
    last.rest <:+ short.rest ∧
      ∀ tail long start, tail.head? = some ')' → short.Extends tail long →
        ∃ other stop, wordBoundary start long = .ok (other, stop) ∧ other.bare = found.bare ∧
          last.Extends tail stop := by
  simp only [wordBoundary] at success
  split at success
  · rename_i brace
    split at success
    · cases success
    · rename_i c seen
      have inside := rest_ne_nil_of_peek? seen
      split at success
      · rename_i named
        split at success
        · rename_i closed
          split at success
          · rename_i assertion known
            cases success
            have left := rest_ne_nil_of_sees closed
            refine ⟨?_, fun tail long start head same => ?_⟩
            · rw [rest_advance]
              exact ((List.tail_suffix _).trans (spanWhile_suffix _ _)).trans
                ((next_suffix short).trans (List.tail_suffix _))
            · have met := same.next inside
              obtain ⟨letters, stops⟩ := met.spanWhile left
              refine ⟨.assertion ((long.next.spanWhile isBoundaryChar).2.advance.since start)
                assertion, _, ?_, rfl, stops.advance left⟩
              simp only [wordBoundary, same.sees head (by decide : '\x7b' ≠ ')'), brace, if_true,
                met.peek?_of_some seen, named, stops.sees_of_ne_nil left, closed, letters, known]
          · cases success
        · cases success
      · rename_i unnamed
        cases success
        refine ⟨List.suffix_refl _, fun tail long start head same => ?_⟩
        have met := same.next inside
        refine ⟨.assertion (long.since start) .wordEdge, long, ?_, rfl, same⟩
        simp only [wordBoundary, same.sees head (by decide : '\x7b' ≠ ')'), brace, if_true,
          met.peek?_of_some seen, unnamed, if_false, Bool.false_eq_true]
  · rename_i noBrace
    cases success
    refine ⟨List.suffix_refl _, fun tail long start head same => ?_⟩
    refine ⟨.assertion (long.since start) .wordEdge, long, ?_, rfl, same⟩
    simp only [wordBoundary, same.sees head (by decide : '\x7b' ≠ ')'), noBrace, if_false,
      Bool.false_eq_true]

theorem oneLetter_persists {start : Position} {c : Char} {short last : Cursor}
    {found : Primitive} (left : short.rest ≠ [])
    (success : oneLetter start c short = .ok (found, last)) :
    Persists (fun start => oneLetter start c) Primitive.bare short found last := by
  simp only [oneLetter] at success
  split at success
  · rename_i special
    cases success
    refine .of_open (advance_suffix short) fun tail long start head same => ?_
    refine ⟨.literal ⟨long.advance.since start, .escaped, c⟩, _, ?_, rfl, same.advance left⟩
    simp only [oneLetter, special, if_true]
  · rename_i plain
    split at success
    · rename_i escapable
      cases success
      refine .of_open (advance_suffix short) fun tail long start head same => ?_
      refine ⟨.literal ⟨long.advance.since start, .needlesslyEscaped, c⟩, _, ?_, rfl,
        same.advance left⟩
      simp only [oneLetter, plain, escapable, if_true, if_false, Bool.false_eq_true]
    · rename_i letter
      split at success
      · rename_i escape value control
        cases success
        refine .of_open (advance_suffix short) fun tail long start head same => ?_
        refine ⟨.literal ⟨long.advance.since start, .control escape, value⟩, _, ?_, rfl,
          same.advance left⟩
        simp only [oneLetter, plain, letter, control, if_false, Bool.false_eq_true]
      · rename_i assertion uncontrolled known
        cases success
        refine .of_open (advance_suffix short) fun tail long start head same => ?_
        refine ⟨.assertion (long.advance.since start) assertion, _, ?_, rfl, same.advance left⟩
        simp only [oneLetter, plain, letter, uncontrolled, known, if_false, Bool.false_eq_true]
      · rename_i uncontrolled unknown
        split at success
        · rename_i boundary
          obtain ⟨shorter, again⟩ := wordBoundary_extends success
          refine .of_open (shorter.trans (advance_suffix short)) fun tail long start head same => ?_
          obtain ⟨other, stop, success, alike, stops⟩ :=
            again tail long.advance start head (same.advance left)
          refine ⟨other, stop, ?_, alike, stops⟩
          simp only [oneLetter, plain, letter, uncontrolled, unknown, boundary, success, if_true,
            if_false, Bool.false_eq_true]
        · cases success

theorem parse_persists {octalAllowed : Bool} {short last : Cursor} {found : Primitive}
    (success : parse octalAllowed short = .ok (found, last)) :
    Persists (fun _ : Unit => parse octalAllowed) Primitive.bare short found last := by
  simp only [parse] at success
  split at success
  · cases success
  · rename_i c seen
    have inside := rest_ne_nil_of_peek? seen
    have here : short.rest ≠ [] := by
      rw [rest_advance] at inside
      exact fun empty => inside (by rw [empty]; rfl)
    split at success
    · rename_i digit
      cases success
      refine (octal_persists seen ⟨digit.1, digit.2.1⟩).after_advance here
        fun tail long start met => ⟨long.position, ?_⟩
      simp only [parse, met.peek?_of_some seen, digit, and_self, if_true]
    · rename_i noOctal
      split at success
      · cases success
      · rename_i noReference
        split at success
        · rename_i width known
          refine (hex_persists success).after_advance here
            fun tail long start met => ⟨long.position, ?_⟩
          simp only [parse, met.peek?_of_some seen, noOctal, noReference, known, if_false]
        · rename_i kind negated unknown known
          cases success
          refine .of_open ((advance_suffix _).trans ?_) fun tail long start head same => ?_
          · rw [rest_advance]
            exact List.tail_suffix _
          · have met := same.advance here
            refine ⟨.perl ⟨long.advance.advance.since long.position, kind, negated⟩, _, ?_, rfl,
              met.advance inside⟩
            simp only [parse, met.peek?_of_some seen, noOctal, noReference, unknown, known,
              if_false]
        · rename_i unknown strange
          split at success
          · rename_i letter
            refine (propertyClass_persists success).after_advance here
              fun tail long start met => ⟨long.position, ?_⟩
            simp only [parse, met.peek?_of_some seen, noOctal, noReference, unknown, strange,
              letter, if_true, if_false]
          · rename_i letter
            refine (oneLetter_persists inside success).after_advance here
              fun tail long start met => ⟨long.position, ?_⟩
            simp only [parse, met.peek?_of_some seen, noOctal, noReference, unknown, strange,
              letter, if_false, Bool.false_eq_true]

end Escape

/-- A part that no operator begins is found again before a closing tail. -/
theorem Primitive.parse_persists {octalAllowed : Bool} {c : Char} {short last : Cursor}
    {found : Primitive} (seen : short.peek? = some c)
    (success : Primitive.parse octalAllowed c short = .ok (found, last)) :
    Persists (fun _ : Unit => Primitive.parse octalAllowed c) Primitive.bare short found last := by
  have here := rest_ne_nil_of_peek? seen
  unfold Primitive.parse at success ⊢
  split at success
  · exact Escape.parse_persists success
  · cases success
    exact .of_open (advance_suffix short) fun tail long start head same =>
      ⟨_, _, rfl, rfl, same.advance here⟩
  · cases success
    exact .of_open (advance_suffix short) fun tail long start head same =>
      ⟨_, _, rfl, rfl, same.advance here⟩
  · cases success
    exact .of_open (advance_suffix short) fun tail long start head same =>
      ⟨_, _, rfl, rfl, same.advance here⟩
  · cases success
    exact .of_open (advance_suffix short) fun tail long start head same =>
      ⟨_, _, rfl, rfl, same.advance here⟩

end SchemaMatch.Syntax
