import SchemaMatch.Proofs.Success
import SchemaMatch.Proofs.Syntax.Bare
import SchemaMatch.Proofs.Syntax.Print.Cursor
import SchemaMatch.Proofs.Syntax.Print.Number

/-!
# Printed escapes

What a backslash begins is found again where it is printed, as long as digits after a backslash are
no octal escapes: these print without the zeros that may have kept a digit after them apart.
-/

namespace SchemaMatch.Syntax

open Cursor

namespace Primitive

/-- A smallest part as it is written. -/
def print (part : Primitive) : List Char := part.toAst.print

theorem print_ne_nil (part : Primitive) : part.print ≠ [] := by
  cases part with
  | literal value =>
    obtain ⟨span, form, char⟩ := value
    cases form <;> exact List.cons_ne_nil _ _
  | dot span => exact List.cons_ne_nil _ _
  | assertion span kind => cases kind <;> exact List.cons_ne_nil _ _
  | property value => exact List.cons_ne_nil _ _
  | perl value =>
    obtain ⟨span, kind, negated⟩ := value
    cases kind <;> cases negated <;> exact List.cons_ne_nil _ _

theorem print_bare (part : Primitive) : part.bare.print = part.print := by cases part <;> rfl

end Primitive

namespace Escape

theorem length_of_fixedDigits {count : Nat} {isFirst : Bool} {short last : Cursor}
    {digits : List Char} (success : fixedDigits count isFirst short = .ok (digits, last)) :
    digits.length = count ∧ last.verbose = short.verbose := by
  induction count generalizing isFirst short digits with
  | zero =>
    cases success
    exact ⟨rfl, rfl⟩
  | succ count ih =>
    have kept : (if isFirst then short else short.next).verbose = short.verbose := by
      split
      · rfl
      · exact verbose_next short
    simp only [fixedDigits] at success
    split at success
    · cases success
    · split at success
      · obtain ⟨⟨others, stop⟩, more, equal⟩ := bind_eq_ok_iff.1 success
        cases equal
        obtain ⟨length, verbose⟩ := ih more
        exact ⟨by rw [List.length_cons, length], verbose.trans kept⟩
      · cases success

theorem fixedDigits_of_before {digits text : List Char} {c : Char} {long : Cursor}
    (before : long.Before (c :: digits ++ text)) (hex : ∀ d ∈ digits, isHexDigit d = true) :
    ∃ last d, fixedDigits digits.length false long = .ok (digits, last) ∧
      last.Before (d :: text) := by
  induction digits generalizing c long with
  | nil => exact ⟨long, c, rfl, before⟩
  | cons d rest ih =>
    have after : long.next.Before (d :: rest ++ text) := by
      rw [before.next]
      exact before.advance
    obtain ⟨last, e, success, stops⟩ := ih after fun e member => hex e (List.mem_cons_of_mem d member)
    refine ⟨last, e, ?_, stops⟩
    have digit := hex d List.mem_cons_self
    have seen : long.next.peek? = some d := after.peek?
    simp only [List.length_cons, fixedDigits, Bool.false_eq_true, if_false, seen, digit, if_true,
      success, ok_bind]

theorem fixedDigits_of_first {digits text : List Char} {long : Cursor}
    (before : long.Before (digits ++ text)) (hex : ∀ d ∈ digits, isHexDigit d = true)
    (some : digits ≠ []) :
    ∃ last, fixedDigits digits.length true long = .ok (digits, last) ∧ last.next.Before text := by
  cases digits with
  | nil => exact absurd rfl some
  | cons d rest =>
    obtain ⟨last, e, success, stops⟩ :=
      fixedDigits_of_before before fun e member => hex e (List.mem_cons_of_mem d member)
    have digit := hex d List.mem_cons_self
    have seen : long.peek? = .some d := before.peek?
    refine ⟨last, ?_, ?_⟩
    · simp only [List.length_cons, fixedDigits, if_true, seen, digit, success, ok_bind]
    · rw [stops.next]
      exact stops.advance

/-- Hexadecimal digits name a character by its code. -/
theorem hexValue_of_hexChar {digits : List Char} {span : Span} {c : Char}
    (success : hexChar digits span = .ok c) : Unicode.hexValue digits = c.toNat := by
  simp only [hexChar, charOfCode?] at success
  split at success
  · rename_i found
    split at found
    · rename_i valid
      cases success
      cases found
      rw [Char.ofNat, dif_pos valid]
      rfl
    · cases found
  · cases success

theorem hexChar_of_hexValue {digits : List Char} {c : Char} (span : Span)
    (code : Unicode.hexValue digits = c.toNat) : hexChar digits span = .ok c := by
  have valid : c.toNat.isValidChar := c.valid
  simp only [hexChar, charOfCode?, code, valid, if_true, Char.ofNat_toNat]

theorem digitCount_eq (width : HexWidth) : digitCount width = width.digits := by
  cases width <;> rfl

theorem hexWithoutBraces_rereads {start : Position} {width : HexWidth} {short last : Cursor}
    {found : Primitive} (terse : short.verbose = false)
    (success : hexWithoutBraces start width short = .ok (found, last)) :
    ∃ c, found.bare = .literal ⟨.nowhere, .hexDigits width, c⟩ ∧
      Rereads (fun begin => hexWithoutBraces begin width) Primitive.bare
        (fun _ => hexText width.digits c.toNat) found last := by
  obtain ⟨⟨digits, close⟩, taken, success⟩ := bind_eq_ok_iff.1 success
  obtain ⟨c, named, equal⟩ := bind_eq_ok_iff.1 success
  cases equal
  obtain ⟨count, verbose⟩ := length_of_fixedDigits taken
  have small : c.toNat < 16 ^ width.digits := by
    have bound := hexValue_lt digits
    rwa [count, digitCount_eq, hexValue_of_hexChar named] at bound
  have all : (hexText width.digits c.toNat).length = digitCount width := by
    rw [digitCount_eq, length_hexText (by cases width <;> decide) small]
  refine ⟨c, rfl, by rw [verbose_next, verbose, terse], fun text long begin follows before => ?_⟩
  obtain ⟨stop, again, stops⟩ := fixedDigits_of_first before
    (fun d member => isHexDigit_of_mem_hexText member) (hexText_ne_nil _ _)
  refine ⟨.literal ⟨stop.next.since begin, .hexDigits width, c⟩, stop.next, ?_, rfl, stops⟩
  rw [all] at again
  simp only [hexWithoutBraces, again, ok_bind, hexChar_of_hexValue _ (hexValue_hexText _ _)]

theorem braced_of_before {inside text : List Char} {c : Char} {long : Cursor}
    (before : long.Before (c :: inside ++ '\x7d' :: text)) (closed : '\x7d' ∉ inside) :
    ∃ letters close, braced long = (letters, close) ∧ letters.map Prod.fst = inside ∧
      close.Before ('\x7d' :: text) := by
  have after : long.next.Before (inside ++ '\x7d' :: text) := by
    rw [before.next]
    exact before.advance
  refine after.spanWhile (fun d member => ?_) (fun d head => ?_)
  · exact bne_iff_ne.2 fun equal => closed (equal ▸ member)
  · cases head
    rfl

theorem find?_map_fst (p : Char → Bool) (letters : List (Char × Position)) :
    (letters.find? fun letter => p letter.1) = none ↔ ∀ c ∈ letters.map Prod.fst, ¬p c = true := by
  rw [List.find?_eq_none]
  simp only [List.mem_map, forall_exists_index, and_imp]
  constructor
  · rintro none c letter member rfl
    exact none letter member
  · exact fun none letter member => none letter.1 letter member rfl

theorem hexInBraces_rereads {start : Position} {width : HexWidth} {short last : Cursor}
    {found : Primitive} (terse : short.verbose = false)
    (success : hexInBraces start width short = .ok (found, last)) :
    ∃ c, found.bare = .literal ⟨.nowhere, .hexBraces width, c⟩ ∧
      Rereads (fun begin => hexInBraces begin width) Primitive.bare
        (fun _ => inBraces (hexText 0 c.toNat)) found last := by
  have stopped : (braced short).2.verbose = false :=
    (spanWhile_of_terse _ (by rw [verbose_next, terse])).2.2
  simp only [hexInBraces] at success
  split at success
  · cases success
  · split at success
    · cases success
    · split at success
      · cases success
      · obtain ⟨c, named, equal⟩ := bind_eq_ok_iff.1 success
        cases equal
        have code : Unicode.hexValue (hexText 0 c.toNat) = c.toNat := hexValue_hexText _ _
        refine ⟨c, rfl, by rw [verbose_next, stopped], fun text long begin follows before => ?_⟩
        have closed : '\x7d' ∉ hexText 0 c.toNat := fun member =>
          absurd (isHexDigit_of_mem_hexText member) (by decide)
        rw [inBraces, List.append_assoc] at before
        obtain ⟨letters, close, again, spelled, stops⟩ := braced_of_before before closed
        have digits : letters.find? (fun letter => !isHexDigit letter.1) = none := by
          rw [find?_map_fst (fun c => !isHexDigit c), spelled]
          intro d member
          rw [isHexDigit_of_mem_hexText member]
          decide
        have some : letters.isEmpty = false := by
          rw [← Bool.not_eq_true, List.isEmpty_iff]
          rintro rfl
          exact hexText_ne_nil _ _ spelled.symm
        have left : close.atEnd = false := stops.atEnd
        have here := hexChar_of_hexValue (close.since long.advance.position) code
        refine ⟨.literal ⟨close.next.since begin, .hexBraces width, c⟩, close.next, ?_, rfl, ?_⟩
        · simp only [hexInBraces, again, digits, left, some, Bool.false_eq_true, if_false, spelled,
            here, ok_bind]
        · rw [stops.next]
          exact stops.advance

theorem letter_of_hexWidth? {c : Char} {width : HexWidth} (letter : hexWidth? c = some width) :
    c = width.letter := by
  unfold hexWidth? at letter
  split at letter
  · cases letter
    rfl
  · cases letter
    rfl
  · cases letter
    rfl
  · cases letter

/-- A part that a letter after a backslash begins is found again, from the letter on. -/
structure IsReread (c : Char) (read : Position → Cursor → Except SyntaxError (Primitive × Cursor))
    (found : Primitive) (last : Cursor) : Prop where
  print : ∃ more, found.print = '\\' :: c :: more
  rereads : Rereads read Primitive.bare (fun part => part.print.tail) found last

theorem hex_rereads {start : Position} {width : HexWidth} {short last : Cursor}
    {found : Primitive} (terse : short.verbose = false)
    (success : hex start width short = .ok (found, last)) :
    IsReread width.letter (fun begin => hex begin width) found last := by
  have after : short.next.verbose = false := by rw [verbose_next, terse]
  simp only [hex] at success
  split at success
  · cases success
  · split at success
    · obtain ⟨c, bare, still, again⟩ := hexInBraces_rereads after success
      have print : found.print = '\\' :: width.letter :: inBraces (hexText 0 c.toNat) := by
        rw [← Primitive.print_bare, bare]
        rfl
      refine ⟨⟨_, print⟩, still, fun text long begin follows before => ?_⟩
      rw [print] at before
      have inside : long.next.Before (inBraces (hexText 0 c.toNat) ++ text) := by
        rw [before.next]
        exact before.advance
      have seen : long.next.peek? = some '\x7b' := inside.peek?
      simp only [hex, seen, beq_self_eq_true, if_true]
      exact again text long.next begin follows inside
    · obtain ⟨c, bare, still, again⟩ := hexWithoutBraces_rereads after success
      have print : found.print = '\\' :: width.letter :: hexText width.digits c.toNat := by
        rw [← Primitive.print_bare, bare]
        rfl
      refine ⟨⟨_, print⟩, still, fun text long begin follows before => ?_⟩
      rw [print] at before
      have inside : long.next.Before (hexText width.digits c.toNat ++ text) := by
        rw [before.next]
        exact before.advance
      cases digits : hexText width.digits c.toNat with
      | nil => exact absurd digits (hexText_ne_nil _ _)
      | cons d others =>
        have hex : isHexDigit d = true :=
          isHexDigit_of_mem_hexText (digits ▸ List.mem_cons_self)
        have noBrace : (d == '\x7b') = false := by
          rw [beq_eq_false_iff_ne]
          rintro rfl
          cases hex
        have seen : long.next.peek? = some d := by
          rw [inside.peek?, digits]
          rfl
        simp only [Escape.hex, seen, noBrace, Bool.false_eq_true, if_false]
        exact again text long.next begin follows inside

theorem splitAt?_append {separator before after text : List Char}
    (split : splitAt? separator text = some (before, after)) :
    text = before ++ separator ++ after := by
  induction text generalizing before with
  | nil => cases split
  | cons c rest ih =>
    simp only [splitAt?] at split
    by_cases here : separator.isPrefixOf (c :: rest) = true
    · rw [if_pos here] at split
      cases split
      exact (List.prefix_iff_eq_append.1 (List.isPrefixOf_iff_prefix.1 here)).symm
    · rw [if_neg here] at split
      obtain ⟨⟨front, back⟩, found, equal⟩ := Option.map_eq_some_iff.1 split
      cases equal
      rw [ih found]
      rfl

theorem print_propertyQuery (text : List Char) :
    (propertyQuery text).print = inBraces text := by
  simp only [propertyQuery]
  split
  · rename_i parts split
    rw [splitAt?_append split]
    simp [PropertyQuery.print, PropertyRelation.print]
  · split
    · rename_i parts split
      rw [splitAt?_append split]
      simp [PropertyQuery.print, PropertyRelation.print]
    · split
      · rename_i parts split
        rw [splitAt?_append split]
        simp [PropertyQuery.print, PropertyRelation.print]
      · simp [PropertyQuery.print]

theorem propertyClass_rereads {start : Position} {negated : Bool} {short last : Cursor}
    {found : Primitive} (terse : short.verbose = false)
    (success : propertyClass start negated short = .ok (found, last)) :
    IsReread (if negated then 'P' else 'p') (fun begin => propertyClass begin negated) found
      last := by
  have after : short.next.verbose = false := by rw [verbose_next, terse]
  simp only [propertyClass] at success
  split at success
  · cases success
  · split at success
    · cases success
    · cases success
      have inside : short.next.next.verbose = false := by rw [verbose_next, after]
      obtain ⟨spelled, _, still⟩ := spanWhile_of_terse (· != '\x7d') inside
      have closed : '\x7d' ∉ (braced short.next).1.map Prod.fst := by
        rw [braced, spelled]
        intro member
        exact absurd (List.all_eq_true.1 List.all_takeWhile _ member) (by decide)
      refine ⟨⟨_, rfl⟩, by rw [verbose_advance]; exact still,
        fun text long begin follows before => ?_⟩
      rw [Primitive.print, Primitive.toAst, Ast.print, PropertyClass.print, print_propertyQuery,
        List.tail_cons] at before
      have name : long.next.Before (inBraces ((braced short.next).1.map Prod.fst) ++ text) := by
        rw [before.next]
        exact before.advance
      have seen : long.next.peek? = some '\x7b' := name.peek?
      rw [inBraces, List.append_assoc] at name
      obtain ⟨letters, close, again, same, stops⟩ := braced_of_before name closed
      have left : close.atEnd = false := stops.atEnd
      refine ⟨.property ⟨close.advance.since begin, negated, propertyQuery (letters.map Prod.fst)⟩,
        close.advance, ?_, ?_, stops.advance⟩
      · simp only [propertyClass, seen, again, left, Bool.false_eq_true, if_false]
      · rw [same]
        rfl
  · cases success
  · rename_i c _ _ seen
    cases success
    refine ⟨⟨_, rfl⟩, by rw [verbose_next, after], fun text long begin follows before => ?_⟩
    have name : long.next.Before (c :: text) := by
      rw [before.next]
      exact before.advance
    have again : long.next.peek? = some c := name.peek?
    refine ⟨.property ⟨long.next.next.since begin, negated, .oneLetter c⟩, long.next.next, ?_, rfl,
      ?_⟩
    · simp only [propertyClass, again]
    · rw [name.next]
      exact name.advance

theorem print_of_boundary? {name : List Char} {kind : Assertion} (named : boundary? name = some kind) :
    kind.print = '\\' :: 'b' :: inBraces name ∧ (∀ c ∈ name, isBoundaryChar c = true) ∧
      name ≠ [] := by
  unfold boundary? at named
  split at named
  · cases named
    exact ⟨rfl, List.all_eq_true.1 rfl, List.cons_ne_nil _ _⟩
  · cases named
    exact ⟨rfl, List.all_eq_true.1 rfl, List.cons_ne_nil _ _⟩
  · cases named
    exact ⟨rfl, List.all_eq_true.1 rfl, List.cons_ne_nil _ _⟩
  · cases named
    exact ⟨rfl, List.all_eq_true.1 rfl, List.cons_ne_nil _ _⟩
  · cases named

/-- A word boundary is found again after its letter. -/
structure IsBoundary (found : Primitive) (last : Cursor) : Prop where
  print : ∃ more, found.print = '\\' :: 'b' :: more
  rereads : Rereads wordBoundary Primitive.bare (fun part => part.print.tail.tail) found last

/-- Without a name in braces a word boundary ends at its letter. -/
theorem wordBoundary_of_plain {start : Position} {short : Cursor} (terse : short.verbose = false)
    (plain : ∀ text long begin, Follows short.rest text → long.Before text →
      wordBoundary begin long = .ok (.assertion (long.since begin) .wordEdge, long)) :
    IsBoundary (.assertion (short.since start) .wordEdge) short :=
  ⟨⟨[], rfl⟩, terse, fun text long begin follows before =>
    ⟨_, long, plain text long begin follows before, rfl, before⟩⟩

theorem wordBoundary_rereads {start : Position} {short last : Cursor} {found : Primitive}
    (terse : short.verbose = false) (success : wordBoundary start short = .ok (found, last)) :
    IsBoundary found last := by
  have after : short.next.verbose = false := by rw [verbose_next, terse]
  simp only [wordBoundary] at success
  split at success
  · rename_i brace
    split at success
    · cases success
    · rename_i c seen
      split at success
      · split at success
        · split at success
          · rename_i kind named
            cases success
            obtain ⟨print, letters, some⟩ := print_of_boundary? named
            obtain ⟨_, _, still⟩ := spanWhile_of_terse isBoundaryChar after
            refine ⟨⟨_, print⟩, by rw [verbose_advance, still], ?_⟩
            intro text long begin follows before
            rw [Primitive.print, Primitive.toAst, Ast.print, print, List.tail_cons,
              List.tail_cons, inBraces, List.append_assoc] at before
            generalize short.next.spanWhile isBoundaryChar = spanned at named letters some before
            obtain ⟨front, back⟩ := spanned
            have inside : long.next.Before (front.map Prod.fst ++ '\x7d' :: text) := by
              rw [before.next]
              exact before.advance
            have opened : long.sees '\x7b' = true := before.sees _
            obtain ⟨d, head, letter⟩ : ∃ d, long.next.peek? = .some d ∧ isBoundaryChar d = true := by
              rw [inside.peek?]
              cases name : front.map Prod.fst with
              | nil => exact absurd name some
              | cons d rest => exact ⟨d, rfl, letters d (name ▸ List.mem_cons_self)⟩
            obtain ⟨others, close, again, same, stops⟩ :=
              inside.spanWhile letters fun d head => by
                cases head
                rfl
            have closed : close.sees '\x7d' = true := stops.sees _
            refine ⟨.assertion (close.advance.since begin) kind, close.advance, ?_, rfl,
              stops.advance⟩
            simp only [wordBoundary, opened, if_true, head, letter, again, closed, same, named]
          · cases success
        · cases success
      · rename_i noLetter
        cases success
        refine wordBoundary_of_plain terse fun text long begin follows before => ?_
        obtain ⟨others, rest⟩ := exists_rest_of_sees brace
        have following : others.head? = some c := by
          rwa [next_of_terse terse, peek?, rest_advance, rest, List.tail_cons] at seen
        rw [rest] at follows
        obtain ⟨front, equal⟩ := List.head?_eq_some_iff.1 (follows.head? rfl)
        rw [equal] at follows before
        obtain ⟨d, head, same⟩ := follows.after_brace following
        have opened : long.sees '\x7b' = true := before.sees _
        have ahead : long.next.peek? = some d := by
          rw [before.next, before.advance.peek?, head]
        have stranger : isBoundaryChar d = false := by
          rw [← Bool.not_eq_true]
          exact fun letter => noLetter (same letter ▸ letter)
        simp only [wordBoundary, opened, if_true, ahead, stranger, Bool.false_eq_true, if_false]
  · rename_i noBrace
    cases success
    refine wordBoundary_of_plain terse fun text long begin follows before => ?_
    have unseen : long.sees '\x7b' = false := by
      rw [before.sees, beq_eq_false_iff_ne]
      intro head
      have head := follows.head?_rest head (by decide)
      rw [sees, peek?, head] at noBrace
      exact noBrace rfl
    simp only [wordBoundary, unseen, Bool.false_eq_true, if_false]

theorem letter_of_control? {c value : Char} {escape : ControlEscape}
    (found : control? c = some (escape, value)) : escape.letter = c := by
  unfold control? at found
  split at found
  · cases found
    rfl
  · cases found
    rfl
  · cases found
    rfl
  · cases found
    rfl
  · cases found
    rfl
  · cases found
    rfl
  · cases found

theorem print_of_assertion? {c : Char} {kind : Assertion} (found : assertion? c = some kind) :
    kind.print = ['\\', c] := by
  unfold assertion? at found
  split at found
  · cases found
    rfl
  · cases found
    rfl
  · cases found
    rfl
  · cases found
    rfl
  · cases found
    rfl
  · cases found

/-- A part that is one letter after a backslash is found again if it is one wherever it stands. -/
theorem isReread_of_letter {c : Char} {short : Cursor} {found : Primitive}
    {read : Position → Cursor → Except SyntaxError (Primitive × Cursor)}
    (terse : short.verbose = false) (print : found.print = ['\\', c])
    (again : ∀ begin long, ∃ twin, read begin long = .ok (twin, long.advance) ∧
      twin.bare = found.bare) :
    IsReread c read found short.advance := by
  refine ⟨⟨[], print⟩, by rw [verbose_advance, terse], fun text long begin follows before => ?_⟩
  rw [print, List.tail_cons] at before
  obtain ⟨twin, success, same⟩ := again begin long
  exact ⟨twin, long.advance, success, same, before.advance⟩

theorem oneLetter_rereads {start : Position} {c : Char} {short last : Cursor}
    {found : Primitive} (terse : short.verbose = false)
    (success : oneLetter start c short = .ok (found, last)) :
    IsReread c (fun begin => oneLetter begin c) found last := by
  simp only [oneLetter] at success
  split at success
  · rename_i special
    cases success
    refine isReread_of_letter terse rfl fun begin long =>
      ⟨.literal ⟨long.advance.since begin, .escaped, c⟩, ?_, rfl⟩
    simp only [oneLetter, special, if_true]
  · rename_i plain
    split at success
    · rename_i escapable
      cases success
      refine isReread_of_letter terse rfl fun begin long =>
        ⟨.literal ⟨long.advance.since begin, .needlesslyEscaped, c⟩, ?_, rfl⟩
      simp only [oneLetter, plain, Bool.false_eq_true, if_false, escapable, if_true]
    · rename_i fixed
      split at success
      · rename_i escape value control
        cases success
        have print : (Primitive.literal ⟨short.advance.since start, .control escape, value⟩).print =
            ['\\', c] := by
          rw [← letter_of_control? control]
          rfl
        refine isReread_of_letter terse print fun begin long =>
          ⟨.literal ⟨long.advance.since begin, .control escape, value⟩, ?_, rfl⟩
        simp only [oneLetter, plain, Bool.false_eq_true, if_false, fixed, control]
      · rename_i kind noControl asserts
        cases success
        refine isReread_of_letter terse (print_of_assertion? asserts) fun begin long =>
          ⟨.assertion (long.advance.since begin) kind, ?_, rfl⟩
        simp only [oneLetter, plain, Bool.false_eq_true, if_false, fixed, noControl, asserts]
      · rename_i noControl noAssertion
        split at success
        · rename_i letter
          cases beq_iff_eq.1 letter
          obtain ⟨print, again⟩ :=
            wordBoundary_rereads (by rw [verbose_advance, terse]) success
          refine ⟨print, again.terse, fun text long begin follows before => ?_⟩
          obtain ⟨more, print⟩ := print
          have rest : found.print.tail = 'b' :: found.print.tail.tail := by rw [print]; rfl
          rw [rest] at before
          exact again.again text long.advance begin follows before.advance
        · cases success

theorem print_of_perl? {c : Char} {kind : PerlKind} {negated : Bool} (span : Span)
    (found : perl? c = some (kind, negated)) :
    (Primitive.perl ⟨span, kind, negated⟩).print = ['\\', c] := by
  unfold perl? at found
  split at found
  · cases found
    rfl
  · cases found
    rfl
  · cases found
    rfl
  · cases found
    rfl
  · cases found
    rfl
  · cases found
    rfl
  · cases found

/-- A part that is found again from its letter on is found again from the backslash on. -/
theorem IsReread.parse {c : Char} {read : Position → Cursor → Except SyntaxError (Primitive × Cursor)}
    {found : Primitive} {last : Cursor} (again : IsReread c read found last)
    (reads : ∀ long : Cursor, long.advance.peek? = some c →
      Escape.parse false long = read long.position long.advance) :
    (∃ more, found.print = '\\' :: more) ∧
      Rereads (fun _ : Unit => Escape.parse false) Primitive.bare Primitive.print found last := by
  obtain ⟨more, print⟩ := again.print
  refine ⟨⟨_, print⟩, again.rereads.terse, fun text long _ follows before => ?_⟩
  have letter := again.rereads.again text long.advance long.position follows
  rw [print] at before letter
  rw [reads long before.advance.peek?]
  exact letter before.advance

theorem parse_rereads {short last : Cursor} {found : Primitive} (terse : short.verbose = false)
    (success : parse false short = .ok (found, last)) :
    (∃ more, found.print = '\\' :: more) ∧
      Rereads (fun _ : Unit => parse false) Primitive.bare Primitive.print found last := by
  have after : short.advance.verbose = false := by rw [verbose_advance, terse]
  simp only [parse] at success
  split at success
  · cases success
  · rename_i c seen
    split at success
    · rename_i octal
      cases octal.2.2
    · rename_i noOctal
      split at success
      · cases success
      · rename_i noDigit
        split at success
        · rename_i width hexadecimal
          cases letter_of_hexWidth? hexadecimal
          refine (hex_rereads after success).parse fun long head => ?_
          simp only [parse, head, noOctal, if_false, noDigit, hexadecimal]
        · rename_i kind negated noHex perl
          cases success
          have again : IsReread c (fun begin long =>
              .ok (.perl ⟨long.advance.since begin, kind, negated⟩, long.advance))
              (.perl ⟨short.advance.advance.since short.position, kind, negated⟩)
              short.advance.advance :=
            isReread_of_letter after (print_of_perl? _ perl) fun begin long => ⟨_, rfl, rfl⟩
          refine again.parse fun long head => ?_
          simp only [parse, head, noOctal, if_false, noDigit, noHex, perl]
        · rename_i noHex noPerl
          split at success
          · rename_i property
            have letter : (if (c == 'P') = true then 'P' else 'p') = c := by
              rcases Bool.or_eq_true_iff.1 property with small | great
              · cases beq_iff_eq.1 small
                rfl
              · cases beq_iff_eq.1 great
                rfl
            refine (letter ▸ propertyClass_rereads after success).parse fun long head => ?_
            simp only [parse, head, noOctal, if_false, noDigit, noHex, noPerl, property, if_true]
          · rename_i noProperty
            refine (oneLetter_rereads after success).parse fun long head => ?_
            simp only [parse, head, noOctal, if_false, noDigit, noHex, noPerl, noProperty]
            rfl

end Escape

theorem rereads_of_char {c : Char} {short : Cursor} {found : Primitive}
    {read : Cursor → Except SyntaxError (Primitive × Cursor)} (terse : short.verbose = false)
    (seen : short.peek? = some c) (print : found.print = [c])
    (again : ∀ long, ∃ twin, read long = .ok (twin, long.advance) ∧ twin.bare = found.bare) :
    (∀ text, Follows short.advance.rest text → Follows short.rest (found.print ++ text)) ∧
      Rereads (fun _ : Unit => read) Primitive.bare Primitive.print found short.advance := by
  obtain ⟨more, rest⟩ := exists_rest_of_peek? seen
  refine ⟨fun text follows => ?_, by rw [verbose_advance, terse],
    fun text long _ follows before => ?_⟩
  · rw [rest_advance, rest, List.tail_cons] at follows
    rw [rest, print]
    exact .same c follows
  · rw [print] at before
    obtain ⟨twin, success, same⟩ := again long
    exact ⟨twin, long.advance, success, same, before.advance⟩

/-- A part that a backslash begins is found again, and is followed as it was. -/
theorem rereads_of_escape {short last : Cursor} {found : Primitive} (terse : short.verbose = false)
    (seen : short.peek? = some '\\') (success : Escape.parse false short = .ok (found, last)) :
    (∀ text, Follows last.rest text → Follows short.rest (found.print ++ text)) ∧
      Rereads (fun _ : Unit => Escape.parse false) Primitive.bare Primitive.print found last := by
  obtain ⟨⟨more, print⟩, again⟩ := Escape.parse_rereads terse success
  obtain ⟨others, rest⟩ := exists_rest_of_peek? seen
  refine ⟨fun text follows => ?_, again⟩
  rw [rest, print]
  exact .apart others _ rfl (by decide)

/-- A part of a pattern that no operator begins is found again. -/
theorem Primitive.parse_rereads {c : Char} {short last : Cursor} {found : Primitive}
    (terse : short.verbose = false) (seen : short.peek? = some c)
    (success : Primitive.parse false c short = .ok (found, last)) :
    (∃ more, found.print = c :: more) ∧
      (∀ text, Follows last.rest text → Follows short.rest (found.print ++ text)) ∧
      Rereads (fun _ : Unit => Primitive.parse false c) Primitive.bare Primitive.print found
        last := by
  unfold Primitive.parse at success
  split at success
  · exact ⟨(Escape.parse_rereads terse success).1, rereads_of_escape terse seen success⟩
  · cases success
    exact ⟨⟨[], rfl⟩, rereads_of_char terse seen rfl fun long =>
      ⟨.dot long.charSpan, rfl, rfl⟩⟩
  · cases success
    exact ⟨⟨[], rfl⟩, rereads_of_char terse seen rfl fun long =>
      ⟨.assertion long.charSpan .lineStart, rfl, rfl⟩⟩
  · cases success
    exact ⟨⟨[], rfl⟩, rereads_of_char terse seen rfl fun long =>
      ⟨.assertion long.charSpan .lineEnd, rfl, rfl⟩⟩
  · rename_i noEscape noDot noCaret noDollar
    cases success
    refine ⟨⟨[], rfl⟩, rereads_of_char terse seen rfl fun long =>
      ⟨.literal ⟨long.charSpan, .plain, c⟩, ?_, rfl⟩⟩
    unfold Primitive.parse
    split
    · exact absurd rfl noEscape
    · exact absurd rfl noDot
    · exact absurd rfl noCaret
    · exact absurd rfl noDollar
    · rfl

end SchemaMatch.Syntax
