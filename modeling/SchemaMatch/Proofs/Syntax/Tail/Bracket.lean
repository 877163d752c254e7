import SchemaMatch.Proofs.Syntax.Tail.Escape
import SchemaMatch.Syntax.Bracket

/-!
# Bracketed classes before a longer text

A bracketed class that is closed is read to its last bracket again when a closing tail follows. A
class looks ahead at times; what it looks for is never a closing parenthesis, so it does not find
it in the tail.
-/

namespace SchemaMatch.Syntax

namespace Cursor

variable {short long : Cursor} {tail : List Char}

/-- A text without a closing parenthesis is expected with the same outcome before a tail. -/
theorem Extends.expect? (same : short.Extends tail long) (head : tail.head? = some ')')
    (text : List Char) (allowed : ')' ∉ text) :
    (short.expect? text = none ∧ long.expect? text = none) ∨
      ∃ mid stop, short.expect? text = some mid ∧ long.expect? text = some stop ∧
        mid.Extends tail stop := by
  induction text generalizing short long with
  | nil => exact .inr ⟨short, long, rfl, rfl, same⟩
  | cons c text ih =>
    have other : c ≠ ')' := fun equal => allowed (equal ▸ List.mem_cons_self)
    simp only [Cursor.expect?, same.sees head other]
    split
    · rename_i seen
      exact ih (same.advance (rest_ne_nil_of_sees seen))
        (fun member => allowed (List.mem_cons_of_mem _ member))
    · exact .inl ⟨rfl, rfl⟩

theorem Extends.expect?_eq_none (same : short.Extends tail long) (head : tail.head? = some ')')
    {text : List Char} (allowed : ')' ∉ text) (absent : short.expect? text = none) :
    long.expect? text = none := by
  rcases same.expect? head text allowed with ⟨_, none⟩ | ⟨_, _, found, _⟩
  · exact none
  · rw [absent] at found
    cases found

theorem expect?_suffix {cursor stop : Cursor} {text : List Char}
    (found : cursor.expect? text = some stop) : stop.rest <:+ cursor.rest := by
  induction text generalizing cursor with
  | nil =>
    cases found
    exact List.suffix_refl _
  | cons c text ih =>
    rw [Cursor.expect?] at found
    split at found
    · have later := ih found
      rw [rest_advance] at later
      exact later.trans (List.tail_suffix _)
    · cases found

theorem expect?_suffix_tail {cursor stop : Cursor} {c : Char} {text : List Char}
    (found : cursor.expect? (c :: text) = some stop) : stop.rest <:+ cursor.rest.tail := by
  rw [Cursor.expect?] at found
  split at found
  · rw [← rest_advance]
    exact expect?_suffix found
  · cases found

/-- What is neither blank nor a number sign nor a closing parenthesis is not found in a tail. -/
theorem Extends.firstVisible? (rest : List Char) (head : tail.head? = some ')')
    (inComment : Bool) :
    Cursor.firstVisible? inComment (rest ++ tail) = Cursor.firstVisible? inComment rest ∨
      Cursor.firstVisible? inComment (rest ++ tail) = some ')' ∧
        Cursor.firstVisible? inComment rest = none ∧
          ∀ c, rest.head? = some c → Unicode.isBlank c = true ∨ c = '#' := by
  induction rest generalizing inComment with
  | nil =>
    refine .inr ⟨?_, rfl, nofun⟩
    cases tail with
    | nil => cases head
    | cons c more =>
      cases head
      simp [Cursor.firstVisible?, isBlank_close]
  | cons c rest ih =>
    simp only [List.cons_append, Cursor.firstVisible?]
    split
    · rename_i blank
      rcases ih inComment with same | ⟨closed, none, _⟩
      · exact .inl same
      · exact .inr ⟨closed, none, fun _ first => .inl (Option.some.inj first ▸ blank)⟩
    · split
      · rename_i sign
        rcases ih true with same | ⟨closed, none, _⟩
        · exact .inl same
        · refine .inr ⟨closed, none, fun _ first => .inr ?_⟩
          have equal := Option.some.inj first
          rw [← equal]
          simpa using (Bool.and_eq_true_iff.1 sign).2
      · exact .inl rfl

theorem Extends.peekSecond? (same : short.Extends tail long) (head : tail.head? = some ')')
    (left : short.rest ≠ []) {c : Char} (other : c ≠ ')') :
    (long.peekSecond? == some c) = (short.peekSecond? == some c) := by
  rw [Cursor.peekSecond?, Cursor.peekSecond?, same.rest, List.tail_append_of_ne_nil left]
  cases short.rest.tail with
  | nil =>
    rw [List.nil_append, head]
    simpa using fun equal => other equal.symm
  | cons first more => rfl

/-- Whether a sign of classes comes next, across what is skipped, does not depend on a tail. -/
theorem Extends.peekPast? (same : short.Extends tail long) (head : tail.head? = some ')')
    (left : short.rest ≠ []) {c : Char} (other : c ≠ ')') (visible : Unicode.isBlank c = false)
    (noSign : c ≠ '#') :
    (long.peekPast? == some c) = (short.peekPast? == some c) := by
  have second := same.peekSecond? head left other
  simp only [Cursor.peekPast?, same.verbose]
  split
  · rw [same.rest, List.tail_append_of_ne_nil left]
    rcases Extends.firstVisible? short.rest.tail head false with equal | found
    · rw [equal]
      split
      · rfl
      · exact second
    · obtain ⟨closed, none, first⟩ := found
      simp only [closed, none]
      have absent : (short.peekSecond? == some c) = false := by
        rw [beq_eq_false_iff_ne]
        intro equal
        rcases first c equal with blank | sign
        · rw [visible] at blank
          cases blank
        · exact noSign sign
      rw [absent, beq_eq_false_iff_ne]
      exact fun equal => other (Option.some.inj equal).symm
  · exact second

end Cursor

theorem Literal.char_of_bare {literal other : Literal} (same : other.bare = literal.bare) :
    other.char = literal.char := by
  simpa only [Literal.bare] using congrArg Literal.char same

namespace Bracket

open Cursor

theorem asciiKind?_eq_none {letters : List Char} (closed : ')' ∈ letters) :
    asciiKind? (String.ofList letters) = none := by
  unfold asciiKind?
  split
  all_goals first
    | rfl
    | (rename_i equal
       have listed := congrArg String.toList equal
       rw [String.toList_ofList] at listed
       rw [listed] at closed
       exact absurd closed (by decide))

/-- Letters up to a colon are taken from a tail too, its parenthesis first. -/
theorem close_mem_letters_of_nil {other : Nat} {short long : Cursor} {tail : List Char}
    (same : short.Extends tail long) (head : tail.head? = some ')')
    (room : long.rest.length ≤ other) (ended : short.rest = []) :
    ')' ∈ (takeWhile (· != ':') advance other long).1.map Prod.fst := by
  have seen : long.peek? = some ')' :=
    (same.peek?_of_none (peek?_eq_none_iff.2 ended)).trans head
  cases other with
  | zero => exact absurd (List.length_eq_zero_iff.1 (Nat.le_zero.1 room)) (rest_ne_nil_of_peek? seen)
  | succ other => simp [takeWhile, seen]

/-- Letters up to a colon that come to the end of a text go on with the parenthesis. -/
theorem close_mem_letters (bound : Nat) {other : Nat} {short long : Cursor} {tail : List Char}
    (same : short.Extends tail long) (head : tail.head? = some ')')
    (room : long.rest.length ≤ other)
    (ended : (takeWhile (· != ':') advance bound short).2.rest = []) :
    ')' ∈ (takeWhile (· != ':') advance other long).1.map Prod.fst := by
  induction bound generalizing other short long with
  | zero => exact close_mem_letters_of_nil same head room ended
  | succ bound ih =>
    cases seen : short.peek? with
    | none => exact close_mem_letters_of_nil same head room (peek?_eq_none_iff.1 seen)
    | some c =>
      have left := rest_ne_nil_of_peek? seen
      have met := same.peek?_of_some seen
      cases other with
      | zero =>
        exact absurd (List.length_eq_zero_iff.1 (Nat.le_zero.1 room)) (rest_ne_nil_of_peek? met)
      | succ other =>
        simp only [takeWhile, seen, met] at ended ⊢
        split
        · rename_i letter
          rw [if_pos letter] at ended
          refine List.mem_cons_of_mem _ (ih (same.advance left) ?_ ended)
          rw [rest_advance, List.length_tail]
          omega
        · rename_i colon
          rw [if_neg colon] at ended
          exact absurd ended left

/-- The name of a class is found before a tail exactly if it is found without. -/
theorem asciiName_extends {short long : Cursor} {tail : List Char}
    (same : short.Extends tail long) (head : tail.head? = some ')') :
    let taken := takeWhile (· != ':') advance short.rest.length short
    let others := takeWhile (· != ':') advance long.rest.length long
    (taken.2.expect? [':', ']'] = none ∧
        (others.2.expect? [':', ']'] = none ∨
          asciiKind? (String.ofList (others.1.map (·.1))) = none)) ∨
      ∃ last stop, taken.2.expect? [':', ']'] = some last ∧
        others.2.expect? [':', ']'] = some stop ∧
        others.1.map (·.1) = taken.1.map (·.1) ∧
        last.rest <:+ short.rest ∧ last.Extends tail stop := by
  intro taken others
  by_cases ended : taken.2.rest = []
  · refine .inl ⟨?_, .inr ?_⟩
    · have unseen : taken.2.peek? = none := peek?_eq_none_iff.2 ended
      simp [expect?, sees, unseen]
    · exact asciiKind?_eq_none (close_mem_letters _ same head (Nat.le_refl _) ended)
  · obtain ⟨letters, met⟩ := takeWhile_extends (p := (· != ':')) advance_suffix
      (fun _ _ same further => same.advance fun empty => further (by simp [empty]))
      (Nat.le_refl short.rest.length) (Nat.le_refl long.rest.length) ended same
    rcases met.expect? head [':', ']'] (by decide) with ⟨none, absent⟩ | found
    · exact .inl ⟨none, .inl absent⟩
    · obtain ⟨last, stop, closed, twin, stops⟩ := found
      exact .inr ⟨last, stop, closed, twin, letters,
        (expect?_suffix closed).trans (takeWhile_suffix advance_suffix ..), stops⟩

theorem asciiClass?_extends {short long : Cursor} {tail : List Char}
    (same : short.Extends tail long) (head : tail.head? = some ')') :
    (asciiClass? short = none ∧ asciiClass? long = none) ∨
      ∃ found last other stop, asciiClass? short = some (found, last) ∧
        asciiClass? long = some (other, stop) ∧ other.bare = found.bare ∧
        last.rest <:+ short.rest.tail ∧ last.Extends tail stop := by
  rcases same.expect? head ['[', ':'] (by decide) with ⟨none, absent⟩ | opened
  · exact .inl ⟨by simp [asciiClass?, none], by simp [asciiClass?, absent]⟩
  · obtain ⟨colon, far, found, twin, met⟩ := opened
    have negated : far.sees '^' = colon.sees '^' := met.sees head (by decide)
    have inside : (if colon.sees '^' then colon.advance else colon).Extends tail
        (if colon.sees '^' then far.advance else far) := by
      split
      · rename_i seen
        exact met.advance (rest_ne_nil_of_sees seen)
      · exact met
    have shorter : (if colon.sees '^' then colon.advance else colon).rest <:+ short.rest.tail := by
      refine List.IsSuffix.trans ?_ (expect?_suffix_tail found)
      split
      · rw [rest_advance]
        exact List.tail_suffix _
      · exact List.suffix_refl _
    simp only [asciiClass?, found, twin, negated, Option.bind_eq_bind, Option.bind_some]
    generalize (if colon.sees '^' then colon.advance else colon) = name at inside shorter ⊢
    generalize (if colon.sees '^' then far.advance else far) = other at inside ⊢
    rcases asciiName_extends inside head with ⟨none, absent⟩ | named
    · refine .inl ⟨by simp only [none, Option.bind_none], ?_⟩
      rcases absent with absent | unnamed
      · simp only [absent, Option.bind_none]
      · simp only [unnamed, Option.bind_none, Option.bind_fun_none]
    · obtain ⟨last, stop, closed, matched, letters, later, stops⟩ := named
      simp only [closed, matched, letters, Option.bind_some]
      cases asciiKind? _ with
      | none => exact .inl ⟨rfl, rfl⟩
      | some kind => exact .inr ⟨_, last, _, stop, rfl, rfl, rfl, later.trans shorter, stops⟩

theorem asciiClass?_suffix {cursor last : Cursor} {found : AsciiClass}
    (named : asciiClass? cursor = some (found, last)) : last.rest <:+ cursor.rest.tail := by
  have same : cursor.Extends [')'] { cursor with rest := cursor.rest ++ [')'] } := ⟨rfl, rfl⟩
  rcases asciiClass?_extends same rfl with ⟨absent, _⟩ | present
  · rw [named] at absent
    cases absent
  · obtain ⟨_, _, _, _, equal, _, _, shorter, _⟩ := present
    rw [named] at equal
    cases equal
    exact shorter

/-- One more item in lists of items that are equal but for places. -/
theorem Items.push_of_bare {items others : Items} {item found : ClassSet}
    (same : others.bare = items.bare) (alike : found.bare = item.bare) :
    (others.push found).bare = (items.push item).bare := by
  rw [Items.bare_push, Items.bare_push, same, alike]

theorem Items.isEmpty_of_bare {items others : Items} (same : others.bare = items.bare) :
    others.reversed.isEmpty = items.reversed.isEmpty := by
  have lists := congrArg (fun items => items.reversed.isEmpty) same
  simpa only [Items.bare, List.isEmpty_map] using lists

/-- Hyphens at the start of a class are followed by something, and a tail adds none. -/
theorem leadingHyphens_extends {start : Position} {bound : Nat} {items found : Items}
    {short last : Cursor} (enough : short.rest.length ≤ bound) (left : short.rest ≠ [])
    (success : leadingHyphens start bound items short = .ok (found, last)) :
    last.rest ≠ [] ∧ last.rest <:+ short.rest ∧
      ∀ tail long start other others, others.bare = items.bare → long.rest.length ≤ other →
        short.Extends tail long →
        ∃ twin stop, leadingHyphens start other others long = .ok (twin, stop) ∧
          twin.bare = found.bare ∧ last.Extends tail stop := by
  induction bound generalizing items short with
  | zero => exact absurd (List.length_eq_zero_iff.1 (Nat.le_zero.1 enough)) left
  | succ bound ih =>
    simp only [leadingHyphens] at success
    split at success
    · rename_i hyphen
      split at success
      · cases success
      · rename_i unfinished
        have inside : short.next.rest ≠ [] := by
          rw [← atEnd_eq_false_iff]
          simpa using unfinished
        have fewer := (next_suffix short).length_le
        rw [List.length_tail] at fewer
        obtain ⟨ends, shorter, again⟩ := ih (by omega) inside success
        refine ⟨ends, shorter.trans ((next_suffix short).trans (List.tail_suffix _)), ?_⟩
        intro tail long start other others alike room same
        have met := same.next inside
        have less := (next_suffix long).length_le
        have some := List.length_pos_iff.2 (atEnd_eq_false_iff.1 (same.atEnd left))
        rw [List.length_tail] at less
        obtain ⟨other, rfl⟩ : ∃ fewer, other = fewer + 1 := ⟨other - 1, by omega⟩
        obtain ⟨twin, stop, success, equal, stops⟩ :=
          again tail long.next start other (others.push (.literal ⟨long.charSpan, .plain, '-'⟩))
            (Items.push_of_bare alike rfl) (by omega) met
        refine ⟨twin, stop, ?_, equal, stops⟩
        simp only [leadingHyphens, same.sees_of_ne_nil left, hyphen, met.atEnd inside, success,
          if_true, if_false, Bool.false_eq_true]
    · rename_i noHyphen
      cases success
      refine ⟨left, List.suffix_refl _, ?_⟩
      intro tail long start other others alike room same
      have some := List.length_pos_iff.2 (atEnd_eq_false_iff.1 (same.atEnd left))
      obtain ⟨other, rfl⟩ : ∃ fewer, other = fewer + 1 := ⟨other - 1, by omega⟩
      refine ⟨others, long, ?_, alike, same⟩
      simp only [leadingHyphens, same.sees_of_ne_nil left, noHyphen, if_false, Bool.false_eq_true]

theorem openLevel_extends {short last : Cursor} {found : Level}
    (success : openLevel short = .ok (found, last)) :
    last.rest ≠ [] ∧ last.rest <:+ short.rest.tail ∧
      ∀ tail long, short.Extends tail long →
        ∃ other stop, openLevel long = .ok (other, stop) ∧ other.bare = found.bare ∧
          last.Extends tail stop := by
  simp only [openLevel, refuse, unless_eq_ok_iff, bind_eq_ok_iff, Prod.exists] at success
  obtain ⟨unfinished, some, items, mid, hyphens, success⟩ := success
  rw [Bool.not_eq_true, atEnd_eq_false_iff] at unfinished some
  have moves (tail : List Char) (long : Cursor) (met : short.next.Extends tail long.next) :
      (if short.next.sees '^' then short.next.next else short.next).Extends tail
        (if short.next.sees '^' then long.next.next else long.next) := by
    split
    · rename_i negated
      rw [if_pos negated] at some
      exact met.next some
    · exact met
  have shorter : (if short.next.sees '^' then short.next.next else short.next).rest <:+
      short.rest.tail := by
    refine List.IsSuffix.trans ?_ (next_suffix short)
    split
    · exact (next_suffix _).trans (List.tail_suffix _)
    · exact List.suffix_refl _
  obtain ⟨left, later, again⟩ := leadingHyphens_extends (Nat.le_refl _) some hyphens
  split at success
  · rename_i closing
    obtain ⟨closed, equal⟩ := unless_eq_ok_iff.1 success
    cases equal
    rw [Bool.not_eq_true, atEnd_eq_false_iff] at closed
    refine ⟨closed, ?_, fun tail long same => ?_⟩
    · exact ((next_suffix mid).trans (List.tail_suffix _)).trans (later.trans shorter)
    · have met := same.next unfinished
      obtain ⟨others, stop, success, alike, stops⟩ :=
        again tail _ long.position _
          (Items.none (if short.next.sees '^' then long.next.next else long.next)) rfl
          (Nat.le_refl _) (moves tail long met)
      refine ⟨⟨stop.next.since long.position, short.next.sees '^', none,
        others.push (.literal ⟨stop.charSpan, .plain, ']'⟩)⟩, stop.next, ?_, ?_,
        stops.next closed⟩
      · simp only [openLevel, met.atEnd unfinished, met.sees_of_ne_nil unfinished,
          (moves tail long met).atEnd some, success, ok_bind, Items.isEmpty_of_bare alike,
          stops.sees_of_ne_nil left, closing, (stops.next closed).atEnd closed, if_true, if_false,
          Bool.false_eq_true]
      · simp only [Level.bare, Option.map_none, Items.bare_push, ClassSet.bare, Literal.bare, alike]
  · rename_i noClosing
    cases success
    refine ⟨left, later.trans shorter, fun tail long same => ?_⟩
    have met := same.next unfinished
    obtain ⟨others, stop, success, alike, stops⟩ :=
      again tail _ long.position _
        (Items.none (if short.next.sees '^' then long.next.next else long.next)) rfl
        (Nat.le_refl _) (moves tail long met)
    refine ⟨⟨stop.since long.position, short.next.sees '^', none, others⟩, stop, ?_, ?_, stops⟩
    · simp only [openLevel, met.atEnd unfinished, met.sees_of_ne_nil unfinished,
        (moves tail long met).atEnd some, success, ok_bind, Items.isEmpty_of_bare alike,
        stops.sees_of_ne_nil left, noClosing, if_false, Bool.false_eq_true]
    · simp only [Level.bare, Option.map_none, alike]

theorem item_persists {octalAllowed : Bool} {short last : Cursor} {found : Primitive}
    (success : item octalAllowed short = .ok (found, last)) :
    Persists (fun _ : Unit => item octalAllowed) Primitive.bare short found last := by
  simp only [item] at success
  split at success
  · rename_i seen
    refine (Escape.parse_persists success).of_reads fun tail long start same => ?_
    simp only [item, same.peek?_of_some seen]
  · rename_i c plain seen
    cases success
    have left := rest_ne_nil_of_peek? seen
    refine .of_open (advance_suffix short) fun tail long start head same => ?_
    refine ⟨.literal ⟨long.charSpan, .plain, c⟩, long.advance, ?_, rfl, same.advance left⟩
    simp only [item, same.peek?_of_some seen]
  · cases success

/-- An item that is still followed by something is found again, with what is skipped after it. -/
theorem item_extends {octalAllowed : Bool} {short last : Cursor} {found : Primitive}
    (success : item octalAllowed short = .ok (found, last)) (left : last.skip.rest ≠ [])
    {tail : List Char} {long : Cursor} (head : tail.head? = some ')')
    (same : short.Extends tail long) :
    ∃ other stop, item octalAllowed long = .ok (other, stop) ∧ other.bare = found.bare ∧
      last.skip.Extends tail stop.skip := by
  have inside := ne_nil_of_suffix (skip_suffix last) left
  obtain ⟨other, stop, success, alike, stops⟩ :=
    (item_persists success).of_ne_nil inside head same ()
  exact ⟨other, stop, success, alike, stops.skip left⟩

theorem rangeOrItem_extends {octalAllowed : Bool} {state found : State} {short last : Cursor}
    (left : last.rest ≠ []) (success : rangeOrItem octalAllowed state short = .ok (found, last)) :
    last.rest <:+ short.rest.tail ∧
      ∀ tail long others, tail.head? = some ')' → others.bare = state.bare →
        short.Extends tail long →
        ∃ other stop, rangeOrItem octalAllowed others long = .ok (other, stop) ∧
          other.bare = found.bare ∧ last.Extends tail stop := by
  simp only [rangeOrItem, State.unclosed, refuse, bind_eq_ok_iff, unless_eq_ok_iff,
    Prod.exists] at success
  obtain ⟨lo, mid, first, some, success⟩ := success
  rw [Bool.not_eq_true, atEnd_eq_false_iff] at some
  have shorter : mid.skip.rest <:+ short.rest.tail :=
    (skip_suffix mid).trans (item_persists first).shorter
  split at success
  · rename_i single
    obtain ⟨set, member, equal⟩ := bind_eq_ok_iff.1 success
    cases equal
    refine ⟨shorter, fun tail long others head alike same => ?_⟩
    obtain ⟨other, stop, success, equal, stops⟩ := item_extends first some head same
    obtain ⟨twin, joins, bare⟩ := Primitive.toClassSet_of_bare equal member
    refine ⟨others.push twin, stop.skip, ?_, State.push_of_bare alike bare, stops⟩
    simp only [rangeOrItem, success, ok_bind, stops.atEnd some, stops.sees_of_ne_nil some,
      stops.peekPast? head some (by decide : ']' ≠ ')') rfl (by decide),
      stops.peekPast? head some (by decide : '-' ≠ ')') rfl (by decide), single, joins,
      if_true, if_false, Bool.false_eq_true]
  · rename_i range
    simp only [bind_eq_ok_iff, unless_eq_ok_iff, Prod.exists] at success
    obtain ⟨further, hi, stop, second, low, isLow, high, isHigh, ordered, equal⟩ := success
    cases equal
    rw [Bool.not_eq_true, atEnd_eq_false_iff] at further
    refine ⟨?_, fun tail long others head alike same => ?_⟩
    · exact ((item_persists second).shorter.trans (List.tail_suffix _)).trans
        ((next_suffix _).trans ((List.tail_suffix _).trans shorter))
    · obtain ⟨front, sign, success, bareLow, stops⟩ := item_extends first some head same
      have met := stops.next further
      obtain ⟨back, stop, again, bareHigh, ends⟩ :=
        (item_persists second).of_ne_nil left head met ()
      obtain ⟨newLow, isNewLow, sameLow⟩ := Primitive.toRangeEnd_of_bare bareLow isLow
      obtain ⟨newHigh, isNewHigh, sameHigh⟩ := Primitive.toRangeEnd_of_bare bareHigh isHigh
      have lowChar := Literal.char_of_bare sameLow
      have highChar := Literal.char_of_bare sameHigh
      refine ⟨others.push (.range ⟨front.span.start, back.span.stop⟩ newLow newHigh), stop, ?_, ?_,
        ends⟩
      · simp only [rangeOrItem, success, ok_bind, stops.atEnd some, stops.sees_of_ne_nil some,
          stops.peekPast? head some (by decide : ']' ≠ ')') rfl (by decide),
          stops.peekPast? head some (by decide : '-' ≠ ')') rfl (by decide), range,
          met.atEnd further, again, isNewLow, isNewHigh, lowChar, highChar, ordered,
          if_false, Bool.false_eq_true]
      · refine State.push_of_bare alike ?_
        simp only [ClassSet.bare, sameLow, sameHigh]

theorem Level.negated_of_bare {level other : Level} (same : other.bare = level.bare) :
    other.negated = level.negated := by
  simpa only [Level.bare] using congrArg Level.negated same

theorem applyOperator_of_bare {state other : State} (same : other.bare = state.bare)
    (operator : SetOperator) (cursor far : Cursor) :
    (applyOperator operator other far).bare = (applyOperator operator state cursor).bare := by
  have level : other.level.bare = state.level.bare := congrArg State.level same
  have outer : other.outer.map Level.bare = state.outer.map Level.bare :=
    congrArg State.outer same
  have negated := Level.negated_of_bare level
  simp only [applyOperator, State.bare, Level.bare, Option.map_some, Level.operand_of_bare level,
    negated, outer]
  rfl

/-- Closing a bracket in states that are equal but for places: both go on or both end. -/
theorem closeLevel_of_bare {state other : State} (same : other.bare = state.bare)
    (cursor far : Cursor) :
    (∃ closed found, closeLevel state cursor = .inl closed ∧ closeLevel other far = .inl found ∧
        found.bare = closed.bare) ∨
      ∃ result found, closeLevel state cursor = .inr result ∧ closeLevel other far = .inr found ∧
        found.bare = result.bare := by
  have level : other.level.bare = state.level.bare := congrArg State.level same
  have outer : other.outer.map Level.bare = state.outer.map Level.bare :=
    congrArg State.outer same
  have negated := Level.negated_of_bare level
  have body := Level.operand_of_bare level
  match state, other, outer with
  | ⟨_, []⟩, ⟨_, []⟩, _ =>
    dsimp only at negated body
    refine .inr ⟨_, _, rfl, rfl, ?_⟩
    simp only [Result.bare, negated, body]
  | ⟨_, around :: _⟩, ⟨_, others :: _⟩, outer =>
    obtain ⟨first, rest⟩ := List.cons.inj outer
    dsimp only at negated body
    refine .inl ⟨_, _, rfl, rfl, State.push_of_bare ?_ ?_⟩
    · simp only [State.bare, first, rest]
    · simp only [ClassSet.bare, negated, body]

/-- A class is read to its end from a state, and so before every closing tail. -/
structure Finishes (octalAllowed : Bool) (state : State) (short : Cursor) (found : Result)
    (last : Cursor) : Prop where
  left : short.rest ≠ []
  shorter : last.rest <:+ short.rest
  again : ∀ tail long other others, tail.head? = some ')' → others.bare = state.bare →
    long.rest.length ≤ other → short.Extends tail long →
    ∃ twin stop, run octalAllowed other others long = .ok (twin, stop) ∧
      twin.bare = found.bare ∧ last.Extends tail stop

/-- One round leads from a state to the next one, before every closing tail too. -/
structure Passes (octalAllowed : Bool) (state : State) (short : Cursor) (next : State)
    (mid : Cursor) : Prop where
  left : short.rest ≠ []
  shorter : mid.rest <:+ short.rest.tail
  again : ∀ tail long other others, tail.head? = some ')' → others.bare = state.bare →
    short.Extends tail long →
    ∃ twin stop, run octalAllowed (other + 1) others long = run octalAllowed other twin stop ∧
      twin.bare = next.bare ∧ mid.Extends tail stop

variable {octalAllowed : Bool} {state next : State} {short mid last : Cursor} {result : Result}

theorem Passes.finishes (round : Passes octalAllowed state short next mid)
    (rest : Finishes octalAllowed next mid result last) :
    Finishes octalAllowed state short result last := by
  refine ⟨round.left, rest.shorter.trans (round.shorter.trans (List.tail_suffix _)), ?_⟩
  intro tail long other others head alike room same
  have further := List.length_pos_iff.2 (atEnd_eq_false_iff.1 (same.atEnd round.left))
  obtain ⟨other, rfl⟩ : ∃ fewer, other = fewer + 1 := ⟨other - 1, by omega⟩
  obtain ⟨twin, stop, equal, bare, stops⟩ := round.again tail long other others head alike same
  have fewer := same.length_lt stops round.left round.shorter
  rw [equal]
  exact rest.again tail stop other twin head bare (by omega) stops

/-- One round skips blanks, sees a character and stops behind it. -/
theorem Passes.of_seen {c : Char} (seen : short.skip.peek? = some c)
    (shorter : mid.rest <:+ short.skip.rest.tail)
    (again : ∀ tail long other others, tail.head? = some ')' → others.bare = state.bare →
      short.skip.Extends tail long.skip →
      ∃ twin stop, run octalAllowed (other + 1) others long = run octalAllowed other twin stop ∧
        twin.bare = next.bare ∧ mid.Extends tail stop) :
    Passes octalAllowed state short next mid := by
  have left := rest_ne_nil_of_peek? seen
  exact ⟨ne_nil_of_suffix (skip_suffix short) left,
    shorter.trans (tail_suffix_tail (skip_suffix short)),
    fun tail long other others head alike same =>
      again tail long other others head alike (same.skip left)⟩

theorem passes_of_asciiClass? {ascii : AsciiClass} (seen : short.skip.peek? = some '[')
    (named : asciiClass? short.skip = some (ascii, mid)) :
    Passes octalAllowed state short (state.push (.ascii ascii)) mid := by
  refine .of_seen seen (asciiClass?_suffix named) fun tail long other others head alike met => ?_
  rcases asciiClass?_extends met head with ⟨absent, _⟩ | present
  · rw [named] at absent
    cases absent
  · obtain ⟨_, _, twin, stop, equal, matched, same, _, stops⟩ := present
    rw [named] at equal
    cases equal
    refine ⟨others.push (.ascii twin), stop, ?_, State.push_of_bare alike ?_, stops⟩
    · simp only [run, met.peek?_of_some seen, matched]
    · simp only [ClassSet.bare, same]

theorem passes_of_openLevel {level : Level} (seen : short.skip.peek? = some '[')
    (unnamed : asciiClass? short.skip = none) (opened : openLevel short.skip = .ok (level, mid)) :
    Passes octalAllowed state short ⟨level, state.level :: state.outer⟩ mid := by
  obtain ⟨_, shorter, opens⟩ := openLevel_extends opened
  refine .of_seen seen shorter fun tail long other others head alike met => ?_
  obtain ⟨twin, stop, success, equal, stops⟩ := opens tail _ met
  rcases asciiClass?_extends met head with ⟨_, absent⟩ | ⟨_, _, _, _, named, _⟩
  · refine ⟨⟨twin, others.level :: others.outer⟩, stop, ?_, ?_, stops⟩
    · simp only [run, met.peek?_of_some seen, absent, success, ok_bind]
    · simp only [State.bare, State.mk.injEq] at alike ⊢
      simp only [List.map_cons, equal, alike, and_self]
  · rw [unnamed] at named
    cases named

theorem passes_of_closeLevel (seen : short.skip.peek? = some ']')
    (inner : closeLevel state short.skip.advance = .inl next) :
    Passes octalAllowed state short next short.skip.advance := by
  have left := rest_ne_nil_of_peek? seen
  refine .of_seen seen (advance_suffix _) fun tail long other others head alike met => ?_
  rcases closeLevel_of_bare alike short.skip.advance long.skip.advance with found | found
  · obtain ⟨_, twin, equal, matched, same⟩ := found
    rw [inner] at equal
    cases equal
    refine ⟨twin, _, ?_, same, met.advance left⟩
    simp only [run, met.peek?_of_some seen, matched]
  · obtain ⟨_, _, equal, _⟩ := found
    rw [inner] at equal
    cases equal

/-- The mate of the outermost bracket ends the class. -/
theorem finishes_of_closeLevel (seen : short.skip.peek? = some ']')
    (outer : closeLevel state short.skip.advance = .inr result) :
    Finishes octalAllowed state short result short.skip.advance := by
  have left := rest_ne_nil_of_peek? seen
  have some := ne_nil_of_suffix (skip_suffix short) left
  refine ⟨some, ((advance_suffix _).trans (List.tail_suffix _)).trans (skip_suffix short), ?_⟩
  intro tail long other others head alike room same
  have met := same.skip left
  have further := List.length_pos_iff.2 (atEnd_eq_false_iff.1 (same.atEnd some))
  obtain ⟨other, rfl⟩ : ∃ fewer, other = fewer + 1 := ⟨other - 1, by omega⟩
  rcases closeLevel_of_bare alike short.skip.advance long.skip.advance with found | found
  · obtain ⟨_, _, equal, _⟩ := found
    rw [outer] at equal
    cases equal
  · obtain ⟨_, twin, equal, matched, same⟩ := found
    rw [outer] at equal
    cases equal
    refine ⟨twin, _, ?_, same, met.advance left⟩
    simp only [run, met.peek?_of_some seen, matched]

theorem ne_close_of_operator? {c : Char} {operator : SetOperator}
    (known : operator? c = some operator) : c ≠ ')' := by
  rintro rfl
  cases known

theorem passes_of_operator? {c : Char} {operator : SetOperator}
    (notOpen : c = '[' → False) (notClose : c = ']' → False) (seen : short.skip.peek? = some c)
    (known : operator? c = some operator) (doubled : (short.skip.peekSecond? == some c) = true) :
    Passes octalAllowed state short (applyOperator operator state short.skip.advance.advance)
      short.skip.advance.advance := by
  have left := rest_ne_nil_of_peek? seen
  have second : short.skip.advance.rest ≠ [] := by
    intro empty
    rw [rest_advance] at empty
    simp [peekSecond?, empty] at doubled
  refine .of_seen seen ?_ fun tail long other others head alike met => ?_
  · rw [rest_advance, rest_advance]
    exact List.tail_suffix _
  · refine ⟨applyOperator operator others long.skip.advance.advance, long.skip.advance.advance, ?_,
      applyOperator_of_bare alike operator _ _, (met.advance left).advance second⟩
    simp only [run, met.peek?_of_some seen, known,
      met.peekSecond? head left (ne_close_of_operator? known), doubled, if_true]

theorem passes_of_rangeOrItem {c : Char} (seen : short.skip.peek? = some c)
    (success : rangeOrItem octalAllowed state short.skip = .ok (next, mid)) (left : mid.rest ≠ [])
    (reads : ∀ tail long other others, tail.head? = some ')' →
      short.skip.Extends tail long.skip →
      run octalAllowed (other + 1) others long =
        rangeOrItem octalAllowed others long.skip >>= fun next =>
          run octalAllowed other next.1 next.2) :
    Passes octalAllowed state short next mid := by
  obtain ⟨shorter, again⟩ := rangeOrItem_extends left success
  refine .of_seen seen shorter fun tail long other others head alike met => ?_
  obtain ⟨twin, stop, taken, same, stops⟩ := again tail long.skip others head alike met
  refine ⟨twin, stop, ?_, same, stops⟩
  rw [reads tail long other others head met, taken, ok_bind]

/-- A class that is closed is read to its end again before a closing tail. -/
theorem finishes_of_run {bound : Nat}
    (success : run octalAllowed bound state short = .ok (result, last)) :
    Finishes octalAllowed state short result last := by
  induction bound generalizing state short with
  | zero => cases success
  | succ bound ih =>
    simp only [run] at success
    split at success
    · cases success
    · rename_i seen
      split at success
      · rename_i named
        exact (passes_of_asciiClass? seen named).finishes (ih success)
      · rename_i unnamed
        obtain ⟨⟨level, mid⟩, opened, success⟩ := bind_eq_ok_iff.1 success
        exact (passes_of_openLevel seen unnamed opened).finishes (ih success)
    · rename_i seen
      split at success
      · rename_i inner
        exact (passes_of_closeLevel seen inner).finishes (ih success)
      · rename_i outer
        cases success
        exact finishes_of_closeLevel seen outer
    · rename_i c notOpen notClose seen
      have left := rest_ne_nil_of_peek? seen
      split at success
      · rename_i operator known
        split at success
        · rename_i doubled
          exact (passes_of_operator? notOpen notClose seen known doubled).finishes (ih success)
        · rename_i single
          obtain ⟨⟨next, mid⟩, taken, success⟩ := bind_eq_ok_iff.1 success
          have rest := ih success
          refine (passes_of_rangeOrItem seen taken rest.left ?_).finishes rest
          intro tail long bound others head met
          simp only [run, met.peek?_of_some seen, known,
            met.peekSecond? head left (ne_close_of_operator? known), single, if_false,
            Bool.false_eq_true]
      · rename_i unknown
        obtain ⟨⟨next, mid⟩, taken, success⟩ := bind_eq_ok_iff.1 success
        have rest := ih success
        refine (passes_of_rangeOrItem seen taken rest.left ?_).finishes rest
        intro tail long bound others head met
        simp only [run, met.peek?_of_some seen, unknown]

theorem parse_persists (success : parse octalAllowed short = .ok (result, last)) :
    Persists (fun _ : Unit => parse octalAllowed) Result.bare short result last := by
  obtain ⟨⟨level, mid⟩, opened, success⟩ := bind_eq_ok_iff.1 success
  obtain ⟨left, shorter, opens⟩ := openLevel_extends opened
  have finishes := finishes_of_run success
  refine .of_open (finishes.shorter.trans shorter) fun tail long start head same => ?_
  obtain ⟨other, inside, success, alike, met⟩ := opens tail long same
  have states : (⟨other, []⟩ : State).bare = (⟨level, []⟩ : State).bare := by
    simp only [State.bare, alike]
  simp only [parse, success, ok_bind]
  exact finishes.again tail inside _ _ head states (Nat.le_refl _) met

end Bracket

end SchemaMatch.Syntax
