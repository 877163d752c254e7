import SchemaMatch.Proofs.Syntax.Print.Escape
import SchemaMatch.Proofs.Syntax.Tail.Bracket

/-!
# Printed classes

A bracketed class is found again where it is printed. What a state has read so far prints as the
text that it was read from but for numbers, and every step adds to both.
-/

namespace SchemaMatch.Syntax

open Cursor

namespace Bracket

theorem asciiKind?_name (kind : AsciiKind) : asciiKind? (String.ofList kind.name) = some kind := by
  cases kind <;> rfl

theorem eq_name_of_asciiKind? {name : String} {kind : AsciiKind}
    (found : asciiKind? name = some kind) : name = String.ofList kind.name := by
  unfold asciiKind? at found
  split at found
  all_goals first
    | (cases found
       rfl)
    | cases found

/-- A named class is a bracket and a colon, a sign of negation or none, and its name, closed. -/
theorem print_ascii (ascii : AsciiClass) : ascii.print =
    ['[', ':'] ++ ((if ascii.negated then ['^'] else []) ++ (ascii.kind.name ++ [':', ']'])) := by
  cases negated : ascii.negated <;> simp [AsciiClass.print, negated]

theorem asciiClass?_of_before {ascii : AsciiClass} {long : Cursor} {text : List Char}
    (before : long.Before (ascii.print ++ text)) :
    ∃ twin stop, asciiClass? long = some (twin, stop) ∧ twin.bare = ascii.bare ∧
      stop.Before text := by
  obtain ⟨span, kind, negated⟩ := ascii
  rw [print_ascii, List.append_assoc, List.append_assoc, List.append_assoc] at before
  obtain ⟨colon, found, inside⟩ := before.expect?
  have sign : colon.sees '^' = negated := by
    rw [inside.sees]
    cases negated with
    | true => rfl
    | false => cases kind <;> rfl
  have name : (if negated then colon.advance else colon).Before
      (kind.name ++ ([':', ']'] ++ text)) := by
    cases negated with
    | true => exact inside.advance
    | false => exact inside
  have letters : ∀ c ∈ kind.name, (c != ':') = true :=
    List.all_eq_true.1 (by cases kind <;> rfl)
  obtain ⟨taken, close, takes, spelled, closes⟩ := name.takeWhile letters (fun c head => by
    cases head
    rfl) (Nat.le_refl _)
  obtain ⟨stop, ended, stops⟩ := closes.expect?
  refine ⟨⟨stop.since long.position, kind, negated⟩, stop, ?_, rfl, stops⟩
  simp only [asciiClass?, found, Option.bind_eq_bind, Option.bind_some, sign, takes, ended, spelled,
    asciiKind?_name]

theorem eq_append_of_asciiClass? {ascii : AsciiClass} {short last : Cursor}
    (found : asciiClass? short = some (ascii, last)) :
    short.rest = ascii.print ++ last.rest ∧ last.verbose = short.verbose := by
  simp only [asciiClass?, Option.bind_eq_bind, Option.bind_eq_some_iff] at found
  obtain ⟨colon, opened, stop, ended, kind, named, equal⟩ := found
  cases equal
  obtain ⟨rest, verbose⟩ := eq_append_of_expect? opened
  obtain ⟨after, still⟩ := eq_append_of_expect? ended
  obtain ⟨letters, dropped, kept⟩ := takeWhile_advance (· != ':')
    (Nat.le_refl (if colon.sees '^' then colon.advance else colon).rest.length)
  have name := congrArg String.toList (eq_name_of_asciiKind? named)
  rw [String.toList_ofList, String.toList_ofList, letters] at name
  have inside : (if colon.sees '^' then colon.advance else colon).rest =
      kind.name ++ ([':', ']'] ++ last.rest) := by
    rw [← after, dropped, ← name, List.takeWhile_append_dropWhile]
  refine ⟨?_, ?_⟩
  · rw [rest, print_ascii]
    split at inside
    · rename_i sign
      obtain ⟨others, equal⟩ := exists_rest_of_sees sign
      rw [rest_advance, equal, List.tail_cons] at inside
      simp [sign, equal, inside]
    · rename_i noSign
      simp [noSign, inside]
  · rw [still, kept]
    split
    · rw [verbose_advance, verbose]
    · exact verbose

theorem isOrdinary_of_mem_tail {ascii : AsciiClass} {c : Char} (member : c ∈ ascii.print.tail) :
    isOrdinary c = true := by
  obtain ⟨span, kind, negated⟩ := ascii
  have all : ∀ c ∈ (AsciiClass.print ⟨.nowhere, kind, negated⟩).tail, isOrdinary c = true :=
    List.all_eq_true.1 (by cases negated <;> cases kind <;> rfl)
  exact all c member

/-- Where no named class stands in the original none stands in the text. -/
theorem asciiClass?_eq_none {short long : Cursor} {rest text : List Char}
    (begins : short.Before ('[' :: rest)) (follows : Follows rest text)
    (before : long.Before ('[' :: text)) (absent : asciiClass? short = none) :
    asciiClass? long = none := by
  rw [← Option.not_isSome_iff_eq_none, Option.isSome_iff_exists]
  rintro ⟨⟨ascii, stop⟩, found⟩
  have opens : ascii.print = '[' :: ascii.print.tail := by
    rw [print_ascii]
    rfl
  have same := (eq_append_of_asciiClass? found).1
  rw [before.rest, opens, List.cons_append] at same
  rw [(List.cons.inj same).2] at follows
  obtain ⟨more, equal⟩ := follows.exists_eq_append fun c member => isOrdinary_of_mem_tail member
  rw [equal, ← List.cons_append, ← opens] at begins
  obtain ⟨_, _, present, _⟩ := asciiClass?_of_before begins
  rw [absent] at present
  cases present

/-- What items print as, in the order in which they were read. -/
def Items.print (items : Items) : List Char := ClassSet.printAll items.reversed.reverse

def Level.inside (level : Level) : List Char :=
  (match level.pending with
    | some (operator, lhs) => lhs.print ++ operator.print
    | none => []) ++ level.items.print

/-- What an open bracket prints as so far. -/
def Level.print (level : Level) : List Char := openBracket level.negated ++ level.inside

/-- What the open brackets print as so far, outermost first. -/
def State.print (state : State) : List Char :=
  state.outer.reverse.flatMap Level.print ++ state.level.print

/-- What a class that has been read prints as. -/
def Result.print (result : Result) : List Char :=
  openBracket result.negated ++ result.body.print ++ [']']

theorem printAll_append (items more : List ClassSet) :
    ClassSet.printAll (items ++ more) = ClassSet.printAll items ++ ClassSet.printAll more := by
  induction items with
  | nil => rfl
  | cons item rest ih =>
    rw [List.cons_append, ClassSet.printAll, ih, ClassSet.printAll, List.append_assoc]

@[simp] theorem Items.print_push (items : Items) (item : ClassSet) :
    (items.push item).print = items.print ++ item.print := by
  simp only [Items.print, Items.push, List.reverse_cons, printAll_append, ClassSet.printAll,
    List.append_nil]

theorem Items.print_toSet (items : Items) : items.toSet.print = items.print := by
  obtain ⟨span, reversed⟩ := items
  cases reversed with
  | nil => rfl
  | cons last before =>
    cases before with
    | nil => simp [toSet, Items.print, ClassSet.printAll]
    | cons other before => simp [toSet, Items.print, ClassSet.print]

theorem Level.print_operand (level : Level) : level.operand.print = level.inside := by
  obtain ⟨opening, negated, pending, items⟩ := level
  cases pending with
  | none => exact Items.print_toSet items
  | some found =>
    simp only [operand, ClassSet.print, inside, Items.print_toSet, List.append_assoc]

@[simp] theorem State.print_push (state : State) (item : ClassSet) :
    (state.push item).print = state.print ++ item.print := by
  simp only [State.print, State.push, Level.print, Level.inside, Items.print_push,
    List.append_assoc]

theorem State.print_applyOperator (operator : SetOperator) (state : State) (cursor : Cursor) :
    (applyOperator operator state cursor).print = state.print ++ operator.print := by
  simp [State.print, applyOperator, Level.print, Level.inside, Level.print_operand, Items.print,
    Items.none, ClassSet.printAll]

theorem print_closeLevel (state : State) (cursor : Cursor) :
    (∀ closed, closeLevel state cursor = .inl closed → closed.print = state.print ++ [']']) ∧
      ∀ result, closeLevel state cursor = .inr result → result.print = state.print ++ [']'] := by
  obtain ⟨level, outer⟩ := state
  cases outer with
  | nil =>
    refine ⟨fun closed equal => ?_, fun result equal => ?_⟩
    · cases equal
    · cases equal
      simp [Result.print, State.print, Level.print, Level.print_operand]
  | cons around outer =>
    refine ⟨fun closed equal => ?_, fun result equal => ?_⟩
    · cases equal
      rw [State.print_push]
      simp [State.print, ClassSet.print, Level.print, Level.print_operand]
    · cases equal

theorem leadingHyphens_rereads {start : Position} {bound : Nat} {items found : Items}
    {short last : Cursor} (terse : short.verbose = false) (enough : short.rest.length ≤ bound)
    (left : short.rest ≠ [])
    (success : leadingHyphens start bound items short = .ok (found, last)) :
    last.verbose = false ∧ last.rest ≠ [] ∧ ∃ hyphens, found.print = items.print ++ hyphens ∧
      (∀ text, Follows last.rest text → Follows short.rest (hyphens ++ text)) ∧
      ∀ text long begin twin room, Follows last.rest text → twin.bare = items.bare →
        long.Before (hyphens ++ text) → long.rest.length ≤ room →
        ∃ other stop, leadingHyphens begin room twin long = .ok (other, stop) ∧
          other.bare = found.bare ∧ stop.Before text := by
  induction bound generalizing items short with
  | zero => exact absurd (List.eq_nil_of_length_eq_zero (Nat.le_zero.1 enough)) left
  | succ bound ih =>
    simp only [leadingHyphens] at success
    split at success
    · rename_i seen
      obtain ⟨others, rest⟩ := exists_rest_of_sees seen
      have after : short.next.rest = others := by
        rw [next_of_terse terse, rest_advance, rest, List.tail_cons]
      split at success
      · cases success
      · rename_i further
        have some : others ≠ [] := by
          rintro rfl
          exact further (List.isEmpty_iff.2 after)
        have fewer : short.next.rest.length ≤ bound := by
          rw [after]
          rw [rest, List.length_cons] at enough
          omega
        rw [← after] at some
        obtain ⟨still, ended, hyphens, print, follows, again⟩ :=
          ih (by rw [verbose_next, terse]) fewer some success
        refine ⟨still, ended, '-' :: hyphens, ?_, fun text alike => ?_, ?_⟩
        · rw [print, Items.print_push, List.append_assoc]
          rfl
        · rw [rest, ← after]
          exact .same '-' (follows text alike)
        · intro text long begin twin room alike same before enough
          obtain ⟨room, rfl⟩ : ∃ fewer, room = fewer + 1 := by
            rw [before.rest, List.cons_append, List.length_cons] at enough
            exact ⟨room - 1, by omega⟩
          have sees : long.sees '-' = true := before.sees _
          have inside : long.next.Before (hyphens ++ text) := by
            rw [before.next]
            exact before.advance
          have further : long.next.atEnd = false := inside.atEnd_eq_false (follows text alike) some
          have room : long.next.rest.length ≤ room := by
            rw [inside.rest]
            rw [before.rest, List.cons_append, List.length_cons] at enough
            omega
          obtain ⟨other, stop, success, equal, stops⟩ := again text long.next begin
            (twin.push (.literal ⟨long.charSpan, .plain, '-'⟩)) _ alike
            (Items.push_of_bare same rfl) inside room
          refine ⟨other, stop, ?_, equal, stops⟩
          simp only [leadingHyphens, sees, if_true, further, Bool.false_eq_true, if_false, success]
    · rename_i unseen
      cases success
      refine ⟨terse, left, [], (List.append_nil _).symm, fun text alike => alike, ?_⟩
      intro text long begin twin room alike same before enough
      have sees : long.sees '-' = false := by
        rw [Bool.not_eq_true] at unseen
        rw [before.sees_of_follows alike (by decide), unseen]
      refine ⟨twin, long, ?_, same, before⟩
      cases room with
      | zero => rfl
      | succ room => simp only [leadingHyphens, sees, Bool.false_eq_true, if_false]

def negation (negated : Bool) : List Char := if negated then ['^'] else []

theorem openBracket_eq (negated : Bool) : openBracket negated = '[' :: negation negated := by
  cases negated <;> rfl

def pastNegation (cursor : Cursor) : Cursor := if cursor.sees '^' then cursor.next else cursor

theorem pastNegation_rereads (short : Cursor) (terse : short.verbose = false) :
    (pastNegation short).verbose = false ∧
      (∀ text, Follows (pastNegation short).rest text →
        Follows short.rest (negation (short.sees '^') ++ text)) ∧
      ∀ text long, Follows (pastNegation short).rest text →
        long.Before (negation (short.sees '^') ++ text) →
        long.sees '^' = short.sees '^' ∧ (pastNegation long).Before text := by
  cases sign : short.sees '^' with
  | true =>
    obtain ⟨others, rest⟩ := exists_rest_of_sees sign
    have after : (pastNegation short).rest = others := by
      rw [pastNegation, if_pos sign, next_of_terse terse, rest_advance, rest, List.tail_cons]
    rw [after, rest]
    refine ⟨by rw [pastNegation, if_pos sign, verbose_next, terse], fun text => .same '^', ?_⟩
    intro text long follows before
    have sees : long.sees '^' = true := before.sees _
    refine ⟨sees, ?_⟩
    rw [pastNegation, if_pos sees, before.next]
    exact before.advance
  | false =>
    have here : pastNegation short = short := by
      rw [pastNegation, sign]
      rfl
    rw [here]
    refine ⟨terse, fun text follows => follows, fun text long follows before => ?_⟩
    have sees : long.sees '^' = false := by rw [before.sees_of_follows follows (by decide), sign]
    refine ⟨sees, ?_⟩
    rw [pastNegation, sees]
    exact before

theorem openLevel_rereads {short last : Cursor} {found : Level} (terse : short.verbose = false)
    (success : openLevel short = .ok (found, last)) :
    last.verbose = false ∧ ∃ front, found.print = '[' :: front ∧
      (∀ text, Follows last.rest text → Follows short.next.rest (front ++ text)) ∧
      ∀ text long, Follows last.rest text → long.Before ('[' :: front ++ text) →
        ∃ other stop, openLevel long = .ok (other, stop) ∧ other.bare = found.bare ∧
          stop.Before text := by
  simp only [openLevel, refuse, unless_eq_ok_iff, bind_eq_ok_iff, Prod.exists] at success
  obtain ⟨unfinished, some, items, mid, taken, success⟩ := success
  rw [Bool.not_eq_true, atEnd_eq_false_iff] at unfinished some
  obtain ⟨after, signed, negates⟩ := pastNegation_rereads short.next
    (by rw [verbose_next, terse])
  obtain ⟨still, left, hyphens, print, leads, again⟩ :=
    leadingHyphens_rereads after (Nat.le_refl _) some taken
  have opens (text : List Char) (long : Cursor) (alike : Follows mid.rest text)
      (before : long.Before ('[' :: (negation (short.next.sees '^') ++ (hyphens ++ text)))) :
      long.next.atEnd = false ∧ long.next.sees '^' = short.next.sees '^' ∧
        (pastNegation long.next).atEnd = false ∧ ∃ others stop,
          leadingHyphens long.position (pastNegation long.next).rest.length
            (Items.none (pastNegation long.next)) (pastNegation long.next) = .ok (others, stop) ∧
          others.bare = items.bare ∧ stop.Before text := by
    have inside : long.next.Before (negation (short.next.sees '^') ++ (hyphens ++ text)) := by
      rw [before.next]
      exact before.advance
    have follows := leads text alike
    obtain ⟨sign, past⟩ := negates _ _ follows inside
    exact ⟨inside.atEnd_eq_false (signed _ follows) unfinished, sign,
      past.atEnd_eq_false follows some,
      again text _ long.position (Items.none (pastNegation long.next)) _ alike rfl past
        (Nat.le_refl _)⟩
  have front (closing : List Char) (span : Span) (all : Items)
      (printed : all.print = items.print ++ closing) :
      (⟨span, short.next.sees '^', none, all⟩ : Level).print =
        '[' :: (negation (short.next.sees '^') ++ (hyphens ++ closing)) := by
    rw [Level.print, openBracket_eq, Level.inside, printed, print]
    rfl
  split at success
  · rename_i closing
    obtain ⟨closed, equal⟩ := unless_eq_ok_iff.1 success
    cases equal
    rw [Bool.not_eq_true, atEnd_eq_false_iff] at closed
    obtain ⟨empty, mate⟩ := Bool.and_eq_true_iff.1 closing
    obtain ⟨others, rest⟩ := exists_rest_of_sees mate
    have ending : mid.next.rest = others := by
      rw [next_of_terse still, rest_advance, rest, List.tail_cons]
    have closes (text : List Char) (alike : Follows mid.next.rest text) :
        Follows mid.rest (']' :: text) := by
      rw [rest, ← ending]
      exact .same ']' alike
    refine ⟨by rw [verbose_next, still], _, front [']'] _ _ (Items.print_push _ _),
      fun text alike => ?_, fun text long alike before => ?_⟩
    · rw [List.append_assoc, List.append_assoc]
      exact signed _ (leads _ (closes text alike))
    · rw [List.cons_append, List.append_assoc, List.append_assoc] at before
      obtain ⟨further, sign, onward, twins, stop, success, same, stops⟩ :=
        opens (']' :: text) long (closes text alike) before
      have sees : stop.sees ']' = true := stops.sees _
      have beyond : stop.next.Before text := by
        rw [stops.next]
        exact stops.advance
      have left : stop.next.atEnd = false := beyond.atEnd_eq_false alike closed
      refine ⟨⟨stop.next.since long.position, short.next.sees '^', none,
        twins.push (.literal ⟨stop.charSpan, .plain, ']'⟩)⟩, stop.next, ?_, ?_, beyond⟩
      · rw [pastNegation, sign] at onward success
        simp only [openLevel, further, sign, onward, success, ok_bind, Items.isEmpty_of_bare same,
          empty, sees, left, Bool.and_self, if_true, if_false, Bool.false_eq_true]
      · simp only [Level.bare, Option.map_none, Items.bare_push, ClassSet.bare, Literal.bare, same]
  · rename_i noClosing
    cases success
    refine ⟨still, _, front [] _ _ (List.append_nil _).symm, fun text alike => ?_,
      fun text long alike before => ?_⟩
    · rw [List.append_nil, List.append_assoc]
      exact signed _ (leads _ alike)
    · rw [List.append_nil, List.cons_append, List.append_assoc] at before
      obtain ⟨further, sign, onward, twins, stop, success, same, stops⟩ := opens text long alike before
      refine ⟨⟨stop.since long.position, short.next.sees '^', none, twins⟩, stop, ?_, ?_, stops⟩
      · have sees : stop.sees ']' = last.sees ']' := stops.sees_of_follows alike (by decide)
        rw [pastNegation, sign] at onward success
        simp only [openLevel, further, sign, onward, success, ok_bind, Items.isEmpty_of_bare same,
          sees, noClosing, if_false, Bool.false_eq_true]
      · simp only [Level.bare, Option.map_none, same]

theorem item_rereads {short last : Cursor} {found : Primitive} (terse : short.verbose = false)
    (success : item false short = .ok (found, last)) :
    (∀ text, Follows last.rest text → Follows short.rest (found.print ++ text)) ∧
      Rereads (fun _ : Unit => item false) Primitive.bare Primitive.print found last := by
  simp only [item] at success
  split at success
  · rename_i seen
    obtain ⟨follows, still, again⟩ := rereads_of_escape terse seen success
    obtain ⟨more, print⟩ := (Escape.parse_rereads terse success).1
    refine ⟨follows, still, fun text long start alike before => ?_⟩
    have sees : long.peek? = some '\\' := by rw [before.peek?, print]; rfl
    simp only [item, sees]
    exact again text long start alike before
  · rename_i c noEscape seen
    cases success
    obtain ⟨more, rest⟩ := exists_rest_of_peek? seen
    refine ⟨fun text follows => ?_, by rw [verbose_advance, terse],
      fun text long start alike before => ?_⟩
    · rw [rest_advance, rest, List.tail_cons] at follows
      rw [rest]
      exact .same c follows
    · have sees : long.peek? = some c := before.peek?
      refine ⟨.literal ⟨long.charSpan, .plain, c⟩, long.advance, ?_, rfl, before.advance⟩
      simp only [item, sees]
  · cases success

theorem print_of_toClassSet {part : Primitive} {set : ClassSet}
    (success : part.toClassSet = .ok set) : set.print = part.print := by
  cases part <;> cases success <;> rfl

theorem print_of_toRangeEnd {part : Primitive} {value : Literal}
    (success : part.toRangeEnd = .ok value) : value.print = part.print := by
  cases part <;> cases success
  rfl

/-- A reader has gone from one state to another, and does so again where what it read is printed. -/
structure Spells (read : State → Cursor → Except SyntaxError (State × Cursor)) (state : State)
    (short : Cursor) (found : State) (last : Cursor) (spelled : List Char) : Prop where
  print : found.print = state.print ++ spelled
  some : spelled ≠ []
  terse : last.verbose = false
  follows : ∀ text, Follows last.rest text → Follows short.rest (spelled ++ text)
  again : ∀ text long twin, Follows last.rest text → twin.bare = state.bare →
    long.Before (spelled ++ text) → ∃ other stop, read twin long = .ok (other, stop) ∧
      other.bare = found.bare ∧ stop.Before text

/-- A hyphen that begins a range is found again, and one that does not is not taken for one. -/
theorem sees_hyphen_of_follows {short long : Cursor} {text : List Char}
    (terse : short.verbose = false) (follows : Follows short.rest text) (before : long.Before text) :
    (!long.sees '-' || long.peekPast? == some ']' || long.peekPast? == some '-') =
      (!short.sees '-' || short.peekPast? == some ']' || short.peekPast? == some '-') := by
  have sees : long.sees '-' = short.sees '-' := before.sees_of_follows follows (by decide)
  rw [sees]
  cases hyphen : short.sees '-' with
  | false => rfl
  | true =>
    obtain ⟨others, rest⟩ := exists_rest_of_sees hyphen
    rw [rest] at follows
    obtain ⟨more, equal⟩ := List.head?_eq_some_iff.1 (follows.head? rfl)
    rw [equal] at follows before
    have alike := follows.tail rfl
    have past (c : Char) (other : c ≠ ')') :
        (long.peekPast? == some c) = (short.peekPast? == some c) := by
      rw [peekPast?_of_terse before.terse, peekPast?_of_terse terse, before.rest, rest,
        Bool.eq_iff_iff, beq_iff_eq, beq_iff_eq]
      exact alike.head?_iff other
    rw [past ']' (by decide), past '-' (by decide)]

theorem rangeOrItem_rereads {state found : State} {short last : Cursor}
    (terse : short.verbose = false)
    (success : rangeOrItem false state short = .ok (found, last)) :
    ∃ spelled, Spells (rangeOrItem false) state short found last spelled := by
  simp only [rangeOrItem, State.unclosed, refuse, bind_eq_ok_iff, unless_eq_ok_iff,
    Prod.exists] at success
  obtain ⟨lo, mid, first, some, success⟩ := success
  obtain ⟨leads, still, again⟩ := item_rereads terse first
  rw [skip_of_terse still] at some success
  rw [Bool.not_eq_true, atEnd_eq_false_iff] at some
  split at success
  · rename_i single
    obtain ⟨set, member, equal⟩ := bind_eq_ok_iff.1 success
    cases equal
    refine ⟨lo.print, ?_, lo.print_ne_nil, still, leads,
      fun text long twin alike same before => ?_⟩
    · rw [State.print_push, print_of_toClassSet member]
    · obtain ⟨other, stop, success, equal, stops⟩ := again text long () alike before
      obtain ⟨part, joins, bare⟩ := Primitive.toClassSet_of_bare equal member
      have alone := sees_hyphen_of_follows still alike stops
      rw [single] at alone
      have left : stop.atEnd = false := stops.atEnd_eq_false alike some
      refine ⟨twin.push part, stop, ?_, State.push_of_bare same bare, stops⟩
      simp only [rangeOrItem, success, ok_bind, stops.skip, left, alone, joins, if_true, if_false,
        Bool.false_eq_true]
  · rename_i range
    simp only [bind_eq_ok_iff, unless_eq_ok_iff, Prod.exists] at success
    obtain ⟨further, hi, stop, second, low, isLow, high, isHigh, ordered, equal⟩ := success
    cases equal
    rw [Bool.not_eq_true, atEnd_eq_false_iff] at further
    obtain ⟨onward, ended, more⟩ := item_rereads (by rw [verbose_next, still]) second
    have hyphen : mid.sees '-' = true := by
      simp only [Bool.or_eq_true, not_or, Bool.not_eq_true, Bool.not_eq_false'] at range
      exact range.1.1
    obtain ⟨others, rest⟩ := exists_rest_of_sees hyphen
    have after : mid.next.rest = others := by
      rw [next_of_terse still, rest_advance, rest, List.tail_cons]
    have joined (text : List Char) (alike : Follows last.rest text) :
        Follows mid.rest ('-' :: (hi.print ++ text)) := by
      rw [rest, ← after]
      exact .same '-' (onward text alike)
    refine ⟨lo.print ++ '-' :: hi.print, ?_, ?_, ended, fun text alike => ?_,
      fun text long twin alike same before => ?_⟩
    · rw [State.print_push, ClassSet.print, print_of_toRangeEnd isLow, print_of_toRangeEnd isHigh]
    · exact List.append_ne_nil_of_right_ne_nil _ (List.cons_ne_nil _ _)
    · rw [List.append_assoc]
      exact leads _ (joined text alike)
    · rw [List.append_assoc] at before
      obtain ⟨front, sign, success, bareLow, stops⟩ := again _ long () (joined text alike) before
      have left : sign.atEnd = false := stops.atEnd_eq_false (joined text alike) some
      have spans := sees_hyphen_of_follows still (joined text alike) stops
      rw [Bool.not_eq_true] at range
      rw [range] at spans
      have met : sign.next.Before (hi.print ++ text) := by
        rw [stops.next]
        exact stops.advance
      have beyond : sign.next.atEnd = false := met.atEnd_eq_false (onward text alike) further
      obtain ⟨back, stop, found, bareHigh, ends⟩ := more text sign.next () alike met
      obtain ⟨newLow, isNewLow, sameLow⟩ := Primitive.toRangeEnd_of_bare bareLow isLow
      obtain ⟨newHigh, isNewHigh, sameHigh⟩ := Primitive.toRangeEnd_of_bare bareHigh isHigh
      have lowChar := Literal.char_of_bare sameLow
      have highChar := Literal.char_of_bare sameHigh
      refine ⟨twin.push (.range ⟨front.span.start, back.span.stop⟩ newLow newHigh), stop, ?_, ?_,
        ends⟩
      · simp only [rangeOrItem, success, ok_bind, stops.skip, left, spans, beyond, found, isNewLow,
          isNewHigh, lowChar, highChar, ordered, if_false, Bool.false_eq_true]
      · refine State.push_of_bare same ?_
        simp only [ClassSet.bare, sameLow, sameHigh]

/-- A round has gone from one state to another, and does so again where what it read is printed. -/
structure Rounds (state : State) (short : Cursor) (next : State) (mid : Cursor)
    (piece : List Char) : Prop where
  print : next.print = state.print ++ piece
  some : piece ≠ []
  terse : mid.verbose = false
  follows : ∀ text, Follows mid.rest text → Follows short.rest (piece ++ text)
  again : ∀ text long twin room, Follows mid.rest text → twin.bare = state.bare →
    long.Before (piece ++ text) → ∃ other stop,
      run false (room + 1) twin long = run false room other stop ∧ other.bare = next.bare ∧
        stop.Before text

/-- A class has been read from a state to its end, and is read again where the rest of it is
printed. -/
structure Concludes (state : State) (short : Cursor) (found : Result) (last : Cursor)
    (spelled : List Char) : Prop where
  print : found.print = state.print ++ spelled
  terse : last.verbose = false
  follows : ∀ text, Follows last.rest text → Follows short.rest (spelled ++ text)
  again : ∀ text long twin room, Follows last.rest text → twin.bare = state.bare →
    long.Before (spelled ++ text) → long.rest.length ≤ room →
    ∃ other stop, run false room twin long = .ok (other, stop) ∧ other.bare = found.bare ∧
      stop.Before text

variable {state next : State} {short mid last : Cursor} {found : Result}

theorem Rounds.concludes {piece spelled : List Char} (round : Rounds state short next mid piece)
    (rest : Concludes next mid found last spelled) :
    Concludes state short found last (piece ++ spelled) := by
  refine ⟨by rw [rest.print, round.print, List.append_assoc], rest.terse, fun text alike => ?_, ?_⟩
  · rw [List.append_assoc]
    exact round.follows _ (rest.follows text alike)
  · intro text long twin room alike same before enough
    rw [List.append_assoc] at before
    have length := List.length_pos_iff.2 round.some
    rw [before.rest, List.length_append] at enough
    obtain ⟨room, rfl⟩ : ∃ fewer, room = fewer + 1 := ⟨room - 1, by omega⟩
    obtain ⟨other, stop, equal, bare, stops⟩ :=
      round.again _ long twin room (rest.follows text alike) same before
    rw [equal]
    refine rest.again text stop other room alike bare stops ?_
    rw [stops.rest]
    omega

theorem rounds_of_asciiClass? {ascii : AsciiClass} (terse : short.verbose = false)
    (seen : short.peek? = some '[') (named : asciiClass? short = some (ascii, mid)) :
    Rounds state short (state.push (.ascii ascii)) mid ascii.print := by
  obtain ⟨others, begins⟩ := exists_rest_of_peek? seen
  obtain ⟨_, still⟩ := eq_append_of_asciiClass? named
  have opens : ascii.print = '[' :: ascii.print.tail := by
    rw [print_ascii]
    rfl
  refine ⟨State.print_push _ _, ?_, by rw [still, terse], fun text _ => ?_,
    fun text long twin room _ same before => ?_⟩
  · rw [opens]
    exact List.cons_ne_nil _ _
  · rw [begins, opens]
    exact .apart others _ rfl (by decide)
  · have sees : long.peek? = some '[' := by
      rw [before.peek?, opens]
      rfl
    obtain ⟨other, stop, matched, equal, stops⟩ := asciiClass?_of_before before
    refine ⟨twin.push (.ascii other), stop, ?_, State.push_of_bare same ?_, stops⟩
    · simp only [run, before.skip, sees, matched]
    · simp only [ClassSet.bare, equal]

theorem rounds_of_openLevel {level : Level} (terse : short.verbose = false)
    (seen : short.peek? = some '[') (unnamed : asciiClass? short = none)
    (opened : openLevel short = .ok (level, mid)) :
    ∃ piece, Rounds state short ⟨level, state.level :: state.outer⟩ mid piece := by
  obtain ⟨others, begins⟩ := exists_rest_of_peek? seen
  obtain ⟨still, front, print, leads, opens⟩ := openLevel_rereads terse opened
  have after : short.next.rest = others := by
    rw [next_of_terse terse, rest_advance, begins, List.tail_cons]
  refine ⟨'[' :: front, ?_, List.cons_ne_nil _ _, still, fun text alike => ?_,
    fun text long twin room alike same before => ?_⟩
  · simp only [State.print, List.reverse_cons, List.flatMap_append, List.flatMap_cons,
      List.flatMap_nil, List.append_nil, print]
  · rw [begins]
    exact .apart others _ rfl (by decide)
  · have sees : long.peek? = some '[' := before.peek?
    have follows := leads text alike
    rw [after] at follows
    have absent : asciiClass? long = none :=
      asciiClass?_eq_none ⟨begins, terse⟩ follows before unnamed
    obtain ⟨other, stop, success, equal, stops⟩ := opens text long alike before
    refine ⟨⟨other, twin.level :: twin.outer⟩, stop, ?_, ?_, stops⟩
    · simp only [run, before.skip, sees, absent, success, ok_bind]
    · simp only [State.bare, State.mk.injEq] at same ⊢
      simp only [List.map_cons, equal, same, and_self]

theorem follows_of_close {text : List Char} (seen : short.peek? = some ']')
    (alike : Follows short.advance.rest text) : Follows short.rest ([']'] ++ text) := by
  obtain ⟨others, begins⟩ := exists_rest_of_peek? seen
  rw [rest_advance, begins, List.tail_cons] at alike
  rw [begins]
  exact .same ']' alike

theorem rounds_of_closeLevel (terse : short.verbose = false) (seen : short.peek? = some ']')
    (inner : closeLevel state short.advance = .inl next) :
    Rounds state short next short.advance [']'] := by
  refine ⟨(print_closeLevel state short.advance).1 next inner, List.cons_ne_nil _ _,
    by rw [verbose_advance, terse], fun text => follows_of_close seen,
    fun text long twin room _ same before => ?_⟩
  have sees : long.peek? = some ']' := before.peek?
  rcases closeLevel_of_bare same short.advance long.advance with found | found
  · obtain ⟨_, other, equal, matched, bare⟩ := found
    rw [inner] at equal
    cases equal
    refine ⟨other, long.advance, ?_, bare, before.advance⟩
    simp only [run, before.skip, sees, matched]
  · obtain ⟨_, _, equal, _⟩ := found
    rw [inner] at equal
    cases equal

theorem concludes_of_closeLevel (terse : short.verbose = false) (seen : short.peek? = some ']')
    (outer : closeLevel state short.advance = .inr found) :
    Concludes state short found short.advance [']'] := by
  refine ⟨(print_closeLevel state short.advance).2 found outer, by rw [verbose_advance, terse],
    fun text => follows_of_close seen, fun text long twin room _ same before enough => ?_⟩
  have sees : long.peek? = some ']' := before.peek?
  obtain ⟨room, rfl⟩ : ∃ fewer, room = fewer + 1 := by
    rw [before.rest, List.length_append, List.length_singleton] at enough
    exact ⟨room - 1, by omega⟩
  rcases closeLevel_of_bare same short.advance long.advance with found | found
  · obtain ⟨_, _, equal, _⟩ := found
    rw [outer] at equal
    cases equal
  · obtain ⟨_, other, equal, matched, bare⟩ := found
    rw [outer] at equal
    cases equal
    refine ⟨other, long.advance, ?_, bare, before.advance⟩
    simp only [run, before.skip, sees, matched]

/-- Past an operator of classes the next character is what it was. -/
theorem peekSecond?_of_follows {long : Cursor} {text : List Char} {c : Char}
    (seen : short.peek? = some c) (ordinary : isOrdinary c = true) (other : c ≠ ')')
    (follows : Follows short.rest text) (before : long.Before text) :
    (long.peekSecond? == some c) = (short.peekSecond? == some c) := by
  obtain ⟨others, begins⟩ := exists_rest_of_peek? seen
  rw [begins] at follows
  obtain ⟨more, rfl⟩ := List.head?_eq_some_iff.1 (follows.head? rfl)
  rw [peekSecond?, peekSecond?, before.rest, begins, Bool.eq_iff_iff, beq_iff_eq, beq_iff_eq]
  exact (follows.tail ordinary).head?_iff other

theorem print_of_operator? {c : Char} {operator : SetOperator}
    (known : operator? c = some operator) :
    operator.print = [c, c] ∧ isOrdinary c = true ∧ c ≠ ')' := by
  unfold operator? at known
  split at known
  · cases known
    exact ⟨rfl, by decide, by decide⟩
  · cases known
    exact ⟨rfl, by decide, by decide⟩
  · cases known
    exact ⟨rfl, by decide, by decide⟩
  · cases known

theorem rounds_of_operator? {c : Char} {operator : SetOperator} (terse : short.verbose = false)
    (seen : short.peek? = some c) (known : operator? c = some operator)
    (doubled : (short.peekSecond? == some c) = true) :
    Rounds state short (applyOperator operator state short.advance.advance) short.advance.advance
      operator.print := by
  obtain ⟨print, _, _⟩ := print_of_operator? known
  obtain ⟨others, begins⟩ := exists_rest_of_peek? seen
  obtain ⟨more, equal⟩ := List.head?_eq_some_iff.1 (beq_iff_eq.1 doubled)
  rw [begins, List.tail_cons] at equal
  subst equal
  have after : short.advance.advance.rest = more := by
    rw [rest_advance, rest_advance, begins, List.tail_cons, List.tail_cons]
  refine ⟨State.print_applyOperator _ _ _, ?_, by rw [verbose_advance, verbose_advance, terse],
    fun text alike => ?_, fun text long twin room _ same before => ?_⟩
  · rw [print]
    exact List.cons_ne_nil _ _
  · rw [after] at alike
    rw [begins, print]
    exact .same c (.same c alike)
  · rw [print] at before
    have first : long.peek? = some c := before.peek?
    have second : (long.peekSecond? == some c) = true := by
      rw [peekSecond?, before.rest]
      exact beq_self_eq_true _
    refine ⟨applyOperator operator twin long.advance.advance, long.advance.advance, ?_,
      applyOperator_of_bare same operator _ _, before.advance.advance⟩
    have notOpen : c = '[' → False := by
      rintro rfl
      cases known
    have notClose : c = ']' → False := by
      rintro rfl
      cases known
    simp only [run, before.skip, first, known, second, if_true]

theorem rounds_of_rangeOrItem (terse : short.verbose = false)
    (success : rangeOrItem false state short = .ok (next, mid))
    (reads : ∀ text long twin room, Follows short.rest text → long.Before text →
      run false (room + 1) twin long = rangeOrItem false twin long >>= fun after =>
        run false room after.1 after.2) :
    ∃ piece, Rounds state short next mid piece := by
  obtain ⟨piece, spells⟩ := rangeOrItem_rereads terse success
  refine ⟨piece, spells.print, spells.some, spells.terse, spells.follows,
    fun text long twin room alike same before => ?_⟩
  obtain ⟨other, stop, taken, equal, stops⟩ := spells.again text long twin alike same before
  refine ⟨other, stop, ?_, equal, stops⟩
  rw [reads _ long twin room (spells.follows text alike) before, taken, ok_bind]

theorem concludes_of_run {bound : Nat} (terse : short.verbose = false)
    (success : run false bound state short = .ok (found, last)) :
    ∃ spelled, Concludes state short found last spelled := by
  induction bound generalizing state short with
  | zero => cases success
  | succ bound ih =>
    have goesOn {next : State} {mid : Cursor} {piece : List Char}
        (round : Rounds state short next mid piece)
        (success : run false bound next mid = .ok (found, last)) :
        ∃ spelled, Concludes state short found last spelled := by
      obtain ⟨spelled, rest⟩ := ih round.terse success
      exact ⟨piece ++ spelled, round.concludes rest⟩
    simp only [run, skip_of_terse terse] at success
    split at success
    · cases success
    · rename_i seen
      split at success
      · rename_i named
        exact goesOn (rounds_of_asciiClass? terse seen named) success
      · rename_i unnamed
        obtain ⟨⟨level, mid⟩, opened, success⟩ := bind_eq_ok_iff.1 success
        obtain ⟨piece, round⟩ := rounds_of_openLevel terse seen unnamed opened
        exact goesOn round success
    · rename_i seen
      split at success
      · rename_i inner
        exact goesOn (rounds_of_closeLevel terse seen inner) success
      · rename_i outer
        cases success
        exact ⟨[']'], concludes_of_closeLevel terse seen outer⟩
    · rename_i c notOpen notClose seen
      have sees {text : List Char} {long : Cursor} (alike : Follows short.rest text)
          (before : long.Before text) : long.peek? = some c := by
        rw [before.peek?]
        exact alike.head? seen
      split at success
      · rename_i operator known
        split at success
        · rename_i doubled
          exact goesOn (rounds_of_operator? terse seen known doubled) success
        · rename_i single
          obtain ⟨⟨next, mid⟩, taken, success⟩ := bind_eq_ok_iff.1 success
          obtain ⟨_, ordinary, other⟩ := print_of_operator? known
          obtain ⟨piece, round⟩ := rounds_of_rangeOrItem terse taken
            fun text long twin room alike before => by
              simp only [run, before.skip, sees alike before, known,
                peekSecond?_of_follows seen ordinary other alike before, single, if_false,
                Bool.false_eq_true]
          exact goesOn round success
      · rename_i unknown
        obtain ⟨⟨next, mid⟩, taken, success⟩ := bind_eq_ok_iff.1 success
        obtain ⟨piece, round⟩ := rounds_of_rangeOrItem terse taken
          fun text long twin room alike before => by
            simp only [run, before.skip, sees alike before, unknown]
        exact goesOn round success

theorem parse_rereads {short last : Cursor} {found : Result} (terse : short.verbose = false)
    (seen : short.peek? = some '[') (success : parse false short = .ok (found, last)) :
    (∃ more, found.print = '[' :: more) ∧
      (∀ text, Follows last.rest text → Follows short.rest (found.print ++ text)) ∧
      Rereads (fun _ : Unit => parse false) Result.bare Result.print found last := by
  obtain ⟨⟨level, mid⟩, opened, success⟩ := bind_eq_ok_iff.1 success
  obtain ⟨still, front, opens, leads, again⟩ := openLevel_rereads terse opened
  obtain ⟨spelled, rest⟩ := concludes_of_run still success
  obtain ⟨others, begins⟩ := exists_rest_of_peek? seen
  have print : found.print = '[' :: front ++ spelled := by
    rw [rest.print, State.print, opens]
    rfl
  refine ⟨⟨_, print⟩, fun text alike => ?_, rest.terse, fun text long _ alike before => ?_⟩
  · rw [begins, print]
    exact .apart others _ rfl (by decide)
  · rw [print, List.append_assoc] at before
    obtain ⟨other, inside, success, same, met⟩ := again _ long (rest.follows text alike) before
    have states : (⟨other, []⟩ : State).bare = (⟨level, []⟩ : State).bare := by
      simp only [State.bare, same]
    simp only [parse, success, ok_bind]
    exact rest.again text inside _ _ alike states met (Nat.le_refl _)

end Bracket

end SchemaMatch.Syntax
