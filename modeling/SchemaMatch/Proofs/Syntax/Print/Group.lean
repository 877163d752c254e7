import SchemaMatch.Proofs.Syntax.Print.Cursor
import SchemaMatch.Proofs.Syntax.Strip
import SchemaMatch.Proofs.Syntax.Tail.Group

/-!
# Printed openings

An opening of a group is found again where it is printed. A group that captures is printed as one
that captures nothing and switches no flags.
-/

namespace SchemaMatch.Syntax

open Cursor

namespace Opening

/-- The same opening without a capture. -/
def strip : Opening → Opening
  | flags span list => flags span list
  | group span kind => group span (kind.strip span)

/-- An opening as it is written. -/
def print : Opening → List Char
  | flags _ list => '(' :: '?' :: list.print ++ [')']
  | group _ kind => kind.print

theorem exists_print_eq (opening : Opening) : ∃ more, opening.print = '(' :: more := by
  cases opening with
  | flags span list => exact ⟨_, rfl⟩
  | group span kind =>
    cases kind with
    | captureIndex index => exact ⟨_, rfl⟩
    | captureName startsWithP name => cases startsWithP <;> exact ⟨_, rfl⟩
    | nonCapturing flags => exact ⟨_, rfl⟩

theorem letter_of_flagItem? {c : Char} {kind : FlagItemKind} {span : Span}
    (known : flagItem? c = some kind) : FlagItem.letter ⟨span, kind⟩ = c := by
  simp only [flagItem?] at known
  split at known
  · rename_i hyphen
    cases known
    exact (eq_of_beq hyphen).symm
  · obtain ⟨flag, found, equal⟩ := Option.map_eq_some_iff.1 known
    cases equal
    unfold flag? at found
    split at found <;> cases found <;> rfl

theorem FlagsRead.rereads {list found : FlagList} {short last : Cursor}
    (reads : FlagsRead list short found last) (terse : short.verbose = false) :
    last.verbose = false ∧ ∃ letters c, found.print = list.print ++ letters ∧
      (∀ d ∈ letters, (flagItem? d).isSome = true) ∧ last.peek? = some c ∧ (c = ':' ∨ c = ')') ∧
      ∀ text long other others, others.bare = list.bare → long.rest.length ≤ other →
        long.Before (letters ++ c :: text) →
        ∃ twin stop, flagItems other others long = .ok (twin, stop) ∧ twin.bare = found.bare ∧
          stop.Before (c :: text) := by
  induction reads with
  | @ended _ _ c seen ends complete =>
    refine ⟨terse, [], c, (List.append_nil _).symm,
      fun d member => absurd member List.not_mem_nil, seen, by simpa using ends,
      fun text long other others alike room before => ?_⟩
    have room : text.length + 1 ≤ other := by
      rw [before.rest] at room
      exact room
    obtain ⟨other, rfl⟩ : ∃ fewer, other = fewer + 1 := ⟨other - 1, by omega⟩
    exact ⟨_, long, flagItems_of_ended other before.peek? ends
      (FlagList.getLast?_ne_of_bare alike complete), alike, before⟩
  | @flag _ _ short _ c kind seen more known fresh inside rest ih =>
    obtain ⟨still, letters, d, spelled, letter, sees, ends, again⟩ :=
      ih (by rw [verbose_advance, terse])
    refine ⟨still, c :: letters, d, ?_, fun e member => ?_, sees, ends,
      fun text long other others alike room before => ?_⟩
    · rw [spelled, FlagList.print, FlagList.print, List.map_append, List.map_cons,
        letter_of_flagItem? known]
      simp
    · rcases List.mem_cons.1 member with rfl | member
      · rw [known]
        rfl
      · exact letter e member
    · have after : long.advance.Before (letters ++ d :: text) := before.advance
      rw [before.rest, List.cons_append, List.length_cons] at room
      obtain ⟨other, rfl⟩ : ∃ fewer, other = fewer + 1 := ⟨other - 1, by omega⟩
      have further : long.advance.atEnd = false := by
        rw [after.atEnd, List.isEmpty_eq_false_iff]
        exact List.append_ne_nil_of_right_ne_nil _ (List.cons_ne_nil _ _)
      rw [flagItems_of_flag other before.peek? more known
        (FlagList.earlier?_eq_none_of_bare alike fresh) further]
      exact again text long.advance other _
        (FlagList.append_of_bare alike kind short.charSpan long.charSpan)
        (by rw [after.rest]; omega) after

/-- The characters after a question mark that do not belong to flags. -/
def isSign (c : Char) : Bool := ['=', '!', '<', 'P'].contains c

/-- Flags that follow a question mark are no sign of looking around and no sign of a name. -/
theorem noSign_of_before {c : Char} {text : List Char} {long : Cursor}
    (before : long.Before ('?' :: c :: text)) (plain : isSign c = false) :
    lookAround? long = none ∧ named? long = none := by
  have second (d : Char) (more : List Char) (other : c ≠ d) :
      long.expect? ('?' :: d :: more) = none := by
    have first : long.sees '?' = true := before.sees _
    have next : long.advance.sees d = false := by
      rw [before.advance.sees, ← Bool.not_eq_true, beq_iff_eq]
      exact fun equal => other (Option.some.inj equal)
    rw [expect?, if_pos first, expect?, next]
    rfl
  simp only [isSign, List.contains_cons, List.contains_nil, Bool.or_false, Bool.or_eq_false_iff,
    beq_eq_false_iff_ne, ne_eq] at plain
  obtain ⟨equals, mark, angle, letter⟩ := plain
  simp only [lookAround?, named?, second _ _ equals, second _ _ mark, second _ _ angle,
    second _ _ letter, Option.map_none]
  exact ⟨rfl, rfl⟩

theorem isSign_eq_false {letters text : List Char} {c d : Char} {more : List Char}
    (begins : letters ++ c :: text = d :: more)
    (known : ∀ d ∈ letters, (flagItem? d).isSome = true) (ends : c = ':' ∨ c = ')') :
    isSign d = false := by
  cases letters with
  | nil =>
    obtain ⟨rfl, -⟩ := List.cons.inj begins
    rcases ends with rfl | rfl <;> decide
  | cons e letters =>
    obtain ⟨rfl, -⟩ := List.cons.inj begins
    have letter := known e List.mem_cons_self
    rw [← Bool.not_eq_true]
    intro sign
    simp only [isSign, List.contains_cons, List.contains_nil, Bool.or_false, Bool.or_eq_true,
      beq_iff_eq] at sign
    rcases sign with rfl | rfl | rfl | rfl <;> cases letter

theorem flagList_rereads {sign last : Cursor} {found : FlagList} (terse : sign.verbose = false)
    (left : sign.rest ≠ []) (success : flagList sign = .ok (found, last)) :
    last.verbose = false ∧ ∃ c, last.peek? = some c ∧ (c = ':' ∨ c = ')') ∧
      ∀ text long, long.Before ('?' :: found.print ++ c :: text) →
        lookAround? long = none ∧ named? long = none ∧
        ∃ next twin stop, long.expect? ['?'] = some next ∧ next.atEnd = false ∧
          flagList next = .ok (twin, stop) ∧ twin.bare = found.bare ∧ stop.Before (c :: text) := by
  obtain ⟨still, letters, c, spelled, known, seen, ends, again⟩ :=
    (flagsRead_of_flagItems (Nat.le_refl _) left success).rereads terse
  have spelled : found.print = letters := spelled
  refine ⟨still, c, seen, ends, fun text long before => ?_⟩
  rw [spelled, List.cons_append] at before
  obtain ⟨d, more, begins⟩ := List.exists_cons_of_ne_nil
    (List.append_ne_nil_of_right_ne_nil letters (List.cons_ne_nil c text))
  have plain := isSign_eq_false begins known ends
  have signed : long.Before ('?' :: d :: more) := begins ▸ before
  obtain ⟨noLook, noName⟩ := noSign_of_before signed plain
  have marked : long.Before (['?'] ++ (letters ++ c :: text)) := before
  obtain ⟨next, found, begins⟩ := marked.expect?
  obtain ⟨twin, stop, success, alike, stops⟩ :=
    again text next next.rest.length ⟨next.here, []⟩ rfl (Nat.le_refl _) begins
  refine ⟨noLook, noName, next, twin, stop, found, ?_, success, alike, stops⟩
  rw [begins.atEnd, List.isEmpty_eq_false_iff]
  exact List.append_ne_nil_of_right_ne_nil _ (List.cons_ne_nil _ _)

theorem parse_of_colon {text : List Char} {long : Cursor} (index : Nat) (names : List CaptureName)
    (before : long.Before ('(' :: '?' :: ':' :: text)) :
    ∃ twin stop, parse index names long = .ok (.group long.charSpan (.nonCapturing twin), stop) ∧
      twin.bare = ⟨.nowhere, []⟩ ∧ stop.Before text := by
  have inside : long.next.Before ('?' :: ':' :: text) := by
    rw [before.next]
    exact before.advance
  obtain ⟨noLook, noName⟩ := noSign_of_before inside rfl
  have marked : long.next.Before (['?'] ++ ':' :: text) := inside
  obtain ⟨next, found, begins⟩ := marked.expect?
  have further : next.atEnd = false := begins.atEnd
  have colon : next.sees ')' = false := begins.sees _
  have list : flagList next = .ok (⟨next.since next.position, []⟩, next) := by
    simp only [flagList, begins.rest, List.length_cons, flagItems, begins.peek?, List.head?_cons]
    rfl
  refine ⟨⟨next.since next.position, []⟩, next.advance, ?_, rfl, begins.advance⟩
  simp only [parse, noLook, noName, found, further, list, ok_bind, colon, if_false,
    Bool.false_eq_true]

theorem parse_rereads {index : Nat} {names : List CaptureName} {short last : Cursor}
    {found : Opening} (terse : short.verbose = false)
    (success : parse index names short = .ok (found, last)) :
    Rereads (fun counted : Nat × List CaptureName => parse counted.1 counted.2) Opening.bare print
      found.strip last := by
  have inside : short.advance.verbose = false := by rw [verbose_advance, terse]
  simp only [parse, next_of_terse terse] at success
  split at success
  · cases success
  · split at success
    · rename_i startsWithP sign named
      obtain ⟨⟨name, mid⟩, found, equal⟩ := bind_eq_ok_iff.1 success
      cases equal
      have signed : sign.verbose = false := by
        simp only [named?, Option.orElse_eq_orElse, Option.orElse_eq_or, Option.or_eq_some_iff,
          Option.map_eq_some_iff] at named
        rcases named with ⟨_, found, equal⟩ | ⟨_, _, found, equal⟩ <;> cases equal <;>
          rw [(eq_append_of_expect? found).2, inside]
      have named : mid.verbose = false := by
        rw [eq_of_captureName found, verbose_advance, (takeWhile_advance _ (Nat.le_refl _)).2.2,
          signed]
      refine ⟨named, fun text long start _ before => ?_⟩
      obtain ⟨twin, stop, success, alike, stops⟩ := parse_of_colon start.1 start.2 before
      refine ⟨_, stop, success, ?_, stops⟩
      simp only [strip, GroupKind.strip, bare, GroupKind.bare, alike]
      rfl
    · split at success
      · cases success
        refine ⟨inside, fun text long start _ before => ?_⟩
        obtain ⟨twin, stop, success, alike, stops⟩ := parse_of_colon start.1 start.2 before
        refine ⟨_, stop, success, ?_, stops⟩
        simp only [strip, GroupKind.strip, bare, GroupKind.bare, alike]
        rfl
      · rename_i sign marked
        simp only [refuse, unless_eq_ok_iff, bind_eq_ok_iff, Prod.exists] at success
        obtain ⟨unfinished, list, close, flags, success⟩ := success
        rw [Bool.not_eq_true, atEnd_eq_false_iff] at unfinished
        obtain ⟨still, c, seen, ends, again⟩ := flagList_rereads
          ((eq_append_of_expect? marked).2.trans inside) unfinished flags
        have after : close.advance.verbose = false := by rw [verbose_advance, still]
        have sees (d : Char) : close.sees d = (c == d) := by
          rw [Cursor.sees, seen]
          rfl
        rcases ends with rfl | rfl
        · rw [sees] at success
          cases success
          refine ⟨after, fun text long start _ before => ?_⟩
          have signed : long.next.Before ('?' :: list.print ++ ':' :: text) := by
            rw [before.next]
            simpa [strip, GroupKind.strip, print, GroupKind.print] using before.advance
          obtain ⟨noLook, noName, next, twin, stop, marked, further, flags, alike, stops⟩ :=
            again text long.next signed
          have opens : stop.sees ')' = false := stops.sees _
          refine ⟨.group long.charSpan (.nonCapturing twin), stop.advance, ?_, ?_, stops.advance⟩
          · simp only [parse, noLook, noName, marked, further, flags, ok_bind, opens, if_false,
              Bool.false_eq_true]
          · simp only [strip, GroupKind.strip, bare, GroupKind.bare, alike]
        · rw [sees, if_pos (beq_self_eq_true _)] at success
          obtain ⟨some, equal⟩ := unless_eq_ok_iff.1 success
          cases equal
          refine ⟨after, fun text long start _ before => ?_⟩
          have signed : long.next.Before ('?' :: list.print ++ ')' :: text) := by
            rw [before.next]
            simpa [strip, print] using before.advance
          obtain ⟨noLook, noName, next, twin, stop, marked, further, flags, alike, stops⟩ :=
            again text long.next signed
          have closes : stop.sees ')' = true := stops.sees _
          refine ⟨.flags (stop.advance.since long.position) twin, stop.advance, ?_, ?_,
            stops.advance⟩
          · simp only [parse, noLook, noName, marked, further, flags, ok_bind, closes,
              FlagList.isEmpty_of_bare alike, some, if_true, if_false, Bool.false_eq_true]
          · simp only [strip, bare, alike]

end Opening

end SchemaMatch.Syntax
