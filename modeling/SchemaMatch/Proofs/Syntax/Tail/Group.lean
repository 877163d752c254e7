import SchemaMatch.Proofs.Syntax.Tail.Bracket
import SchemaMatch.Syntax.Group

/-!
# Openings of groups before a longer text

The opening of a group that captures nothing, or a switch of flags, is found again when a closing
tail follows the pattern, whatever groups have been counted and named before.
-/

namespace SchemaMatch.Syntax

open Cursor

namespace FlagList

theorem kinds_of_bare {list other : FlagList} (same : other.bare = list.bare) :
    other.items.map FlagItem.kind = list.items.map FlagItem.kind := by
  have items := congrArg (fun list => list.items.map FlagItem.kind) same
  have keeps : FlagItem.kind ∘ FlagItem.bare = FlagItem.kind := rfl
  simpa only [bare, List.map_map, keeps] using items

theorem earlier?_eq_none_of_bare {list other : FlagList} (same : other.bare = list.bare)
    {kind : FlagItemKind} (absent : list.earlier? kind = none) : other.earlier? kind = none := by
  rw [earlier?, List.find?_eq_none] at absent ⊢
  intro item member
  have found : item.kind ∈ list.items.map FlagItem.kind :=
    kinds_of_bare same ▸ List.mem_map_of_mem member
  obtain ⟨twin, member, equal⟩ := List.mem_map.1 found
  exact equal ▸ absent twin member

theorem isEmpty_of_bare {list other : FlagList} (same : other.bare = list.bare) :
    other.items.isEmpty = list.items.isEmpty := by
  rw [← List.isEmpty_map (f := FlagItem.kind), kinds_of_bare same, List.isEmpty_map]

theorem getLast?_ne_of_bare {list other : FlagList} (same : other.bare = list.bare)
    (complete : ∀ span, list.items.getLast? ≠ some ⟨span, .negation⟩) (span : Span) :
    other.items.getLast? ≠ some ⟨span, .negation⟩ := by
  intro dangling
  have last : list.items.getLast?.map FlagItem.kind = some .negation := by
    rw [← List.getLast?_map, ← kinds_of_bare same, List.getLast?_map, dangling]
    rfl
  obtain ⟨⟨place, kind⟩, found, negation⟩ := Option.map_eq_some_iff.1 last
  cases negation
  exact complete place found

theorem append_of_bare {list other : FlagList} (same : other.bare = list.bare)
    (kind : FlagItemKind) (span place : Span) :
    ({ other with items := other.items ++ [⟨place, kind⟩] } : FlagList).bare =
      ({ list with items := list.items ++ [⟨span, kind⟩] } : FlagList).bare := by
  have items : other.items.map FlagItem.bare = list.items.map FlagItem.bare :=
    congrArg FlagList.items same
  simp only [bare, List.map_append, items]
  rfl

end FlagList

namespace Opening

def isPlain : Opening → Bool
  | flags _ _ => true
  | group _ (.nonCapturing _) => true
  | group _ _ => false

theorem exists_nonCapturing {span : Span} {kind : GroupKind}
    (plain : (group span kind).isPlain = true) : ∃ list, kind = .nonCapturing list := by
  cases kind with
  | captureIndex index => cases plain
  | captureName startsWithP name => cases plain
  | nonCapturing list => exact ⟨list, rfl⟩

/-- Flags that are read from a list on: one after the other, up to a colon or a closing
parenthesis. -/
inductive FlagsRead : FlagList → Cursor → FlagList → Cursor → Prop where
  | ended {list : FlagList} {cursor : Cursor} {c : Char} (seen : cursor.peek? = some c)
      (ends : (c == ':' || c == ')') = true)
      (complete : ∀ span, list.items.getLast? ≠ some ⟨span, .negation⟩) :
      FlagsRead list cursor { list with span := cursor.since list.span.start } cursor
  | flag {list found : FlagList} {cursor last : Cursor} {c : Char} {kind : FlagItemKind}
      (seen : cursor.peek? = some c) (more : ¬(c == ':' || c == ')') = true)
      (known : flagItem? c = some kind) (fresh : list.earlier? kind = none)
      (inside : cursor.advance.rest ≠ [])
      (rest : FlagsRead { list with items := list.items ++ [⟨cursor.charSpan, kind⟩] }
        cursor.advance found last) :
      FlagsRead list cursor found last

theorem flagItems_of_ended {list : FlagList} {cursor : Cursor} {c : Char} (bound : Nat)
    (seen : cursor.peek? = some c) (ends : (c == ':' || c == ')') = true)
    (complete : ∀ span, list.items.getLast? ≠ some ⟨span, .negation⟩) :
    flagItems (bound + 1) list cursor =
      .ok ({ list with span := cursor.since list.span.start }, cursor) := by
  simp only [flagItems, seen, ends, if_true]

/-- Flags go on behind a letter that is fresh and not the end of the text. -/
theorem flagItems_of_flag {list : FlagList} {cursor : Cursor} {c : Char} {kind : FlagItemKind}
    (bound : Nat) (seen : cursor.peek? = some c) (more : ¬(c == ':' || c == ')') = true)
    (known : flagItem? c = some kind) (fresh : list.earlier? kind = none)
    (further : cursor.advance.atEnd = false) :
    flagItems (bound + 1) list cursor =
      flagItems bound { list with items := list.items ++ [⟨cursor.charSpan, kind⟩] }
        cursor.advance := by
  simp only [flagItems, seen, more, known, fresh, further, if_false, Bool.false_eq_true]

/-- What is accepted are flags up to a colon or a closing parenthesis. -/
theorem flagsRead_of_flagItems {bound : Nat} {list found : FlagList} {short last : Cursor}
    (enough : short.rest.length ≤ bound) (left : short.rest ≠ [])
    (success : flagItems bound list short = .ok (found, last)) :
    FlagsRead list short found last := by
  induction bound generalizing list short with
  | zero => exact absurd (List.length_eq_zero_iff.1 (Nat.le_zero.1 enough)) left
  | succ bound ih =>
    simp only [flagItems] at success
    split at success
    · cases success
    · rename_i c seen
      split at success
      · rename_i ends
        split at success
        · cases success
        · rename_i complete
          cases success
          exact .ended seen ends complete
      · rename_i more
        split at success
        · cases success
        · rename_i kind known
          split at success
          · cases success
          · rename_i fresh
            split at success
            · cases success
            · rename_i unfinished
              have inside : short.advance.rest ≠ [] := by
                rw [← atEnd_eq_false_iff]
                simpa using unfinished
              have fewer := (advance_suffix short).length_le
              rw [List.length_tail] at fewer
              exact .flag seen more known fresh inside (ih (by omega) inside success)

/-- Flags are followed by a colon or a parenthesis, and a tail adds none. -/
theorem FlagsRead.extends {list found : FlagList} {short last : Cursor}
    (reads : FlagsRead list short found last) :
    last.rest ≠ [] ∧ last.rest <:+ short.rest ∧
      ∀ tail long other others, others.bare = list.bare → long.rest.length ≤ other →
        short.Extends tail long →
        ∃ twin stop, flagItems other others long = .ok (twin, stop) ∧ twin.bare = found.bare ∧
          last.Extends tail stop := by
  induction reads with
  | ended seen ends complete =>
    have left := rest_ne_nil_of_peek? seen
    refine ⟨left, List.suffix_refl _, fun tail long other others alike room same => ?_⟩
    have further := List.length_pos_iff.2 (atEnd_eq_false_iff.1 (same.atEnd left))
    obtain ⟨other, rfl⟩ : ∃ fewer, other = fewer + 1 := ⟨other - 1, by omega⟩
    exact ⟨_, long, flagItems_of_ended other (same.peek?_of_some seen) ends
      (FlagList.getLast?_ne_of_bare alike complete), alike, same⟩
  | @flag _ _ short _ _ kind seen more known fresh inside rest ih =>
    have left := rest_ne_nil_of_peek? seen
    obtain ⟨ends, shorter, again⟩ := ih
    refine ⟨ends, shorter.trans ((advance_suffix short).trans (List.tail_suffix _)),
      fun tail long other others alike room same => ?_⟩
    have met := same.advance left
    have less := same.length_lt met left (advance_suffix short)
    obtain ⟨other, rfl⟩ : ∃ fewer, other = fewer + 1 := ⟨other - 1, by omega⟩
    rw [flagItems_of_flag other (same.peek?_of_some seen) more known
      (FlagList.earlier?_eq_none_of_bare alike fresh) (met.atEnd inside)]
    exact again tail long.advance other _
      (FlagList.append_of_bare alike kind short.charSpan long.charSpan) (by omega) met

theorem lookAround?_eq_none {short long : Cursor} {tail : List Char}
    (same : short.Extends tail long) (head : tail.head? = some ')')
    (absent : lookAround? short = none) : lookAround? long = none := by
  simp only [lookAround?, Option.orElse_eq_orElse, Option.orElse_eq_or,
    Option.or_eq_none_iff] at absent ⊢
  obtain ⟨ahead, notAhead, behind, notBehind⟩ := absent
  exact ⟨same.expect?_eq_none head (by decide) ahead,
    same.expect?_eq_none head (by decide) notAhead,
    same.expect?_eq_none head (by decide) behind,
    same.expect?_eq_none head (by decide) notBehind⟩

theorem named?_eq_none {short long : Cursor} {tail : List Char}
    (same : short.Extends tail long) (head : tail.head? = some ')')
    (absent : named? short = none) : named? long = none := by
  simp only [named?, Option.orElse_eq_orElse, Option.orElse_eq_or, Option.or_eq_none_iff,
    Option.map_eq_none_iff] at absent ⊢
  obtain ⟨lettered, plain⟩ := absent
  exact ⟨same.expect?_eq_none head (by decide) lettered,
    same.expect?_eq_none head (by decide) plain⟩

theorem parse_persists {index : Nat} {names : List CaptureName} {short last : Cursor}
    {found : Opening} (plain : found.isPlain = true)
    (success : parse index names short = .ok (found, last)) :
    Persists (fun counted : Nat × List CaptureName => parse counted.1 counted.2) Opening.bare
      short found last := by
  simp only [parse] at success
  split at success
  · cases success
  · rename_i noLook
    split at success
    · obtain ⟨⟨name, mid⟩, _, equal⟩ := bind_eq_ok_iff.1 success
      cases equal
      cases plain
    · rename_i noName
      split at success
      · cases success
        cases plain
      · rename_i sign marked
        have inside : short.next.rest ≠ [] := by
          intro empty
          have unseen : short.next.peek? = none := peek?_eq_none_iff.2 empty
          simp [expect?, sees, unseen] at marked
        simp only [refuse, unless_eq_ok_iff, bind_eq_ok_iff, Prod.exists] at success
        obtain ⟨unfinished, list, close, flags, success⟩ := success
        rw [Bool.not_eq_true, atEnd_eq_false_iff] at unfinished
        obtain ⟨ends, shorter, again⟩ :=
          (flagsRead_of_flagItems (Nat.le_refl _) unfinished flags).extends
        have passed : close.advance.rest <:+ short.rest.tail :=
          ((advance_suffix close).trans (List.tail_suffix _)).trans
            (shorter.trans ((expect?_suffix marked).trans (next_suffix short)))
        have reads {tail : List Char} {long : Cursor} (head : tail.head? = some ')')
            (same : short.Extends tail long) :
            ∃ next twin stop, lookAround? long.next = none ∧ named? long.next = none ∧
              long.next.expect? ['?'] = some next ∧ next.atEnd = false ∧
              flagList next = .ok (twin, stop) ∧ twin.bare = list.bare ∧
              close.Extends tail stop := by
          have met := same.next inside
          rcases met.expect? head ['?'] (by decide) with ⟨absent, _⟩ | found
          · rw [marked] at absent
            cases absent
          · obtain ⟨mid, next, equal, matched, begins⟩ := found
            rw [marked] at equal
            cases equal
            obtain ⟨twin, stop, success, alike, stops⟩ :=
              again tail next next.rest.length ⟨next.here, []⟩ rfl (Nat.le_refl _) begins
            exact ⟨next, twin, stop, lookAround?_eq_none met head noLook,
              named?_eq_none met head noName, matched, begins.atEnd unfinished,
              success, alike, stops⟩
        split at success
        · rename_i closed
          obtain ⟨some, equal⟩ := unless_eq_ok_iff.1 success
          cases equal
          refine .of_open passed fun tail long counted head same => ?_
          obtain ⟨next, twin, stop, noLook, noName, marked, further, flags, alike, stops⟩ :=
            reads head same
          refine ⟨.flags (stop.advance.since long.position) twin, stop.advance, ?_, ?_,
            stops.advance ends⟩
          · simp only [parse, noLook, noName, marked, further, flags, ok_bind,
              stops.sees_of_ne_nil ends, closed, FlagList.isEmpty_of_bare alike, some, if_true,
              if_false, Bool.false_eq_true]
          · simp only [bare, alike]
        · rename_i opened
          cases success
          refine .of_open passed fun tail long counted head same => ?_
          obtain ⟨next, twin, stop, noLook, noName, marked, further, flags, alike, stops⟩ :=
            reads head same
          refine ⟨.group long.charSpan (.nonCapturing twin), stop.advance, ?_, ?_,
            stops.advance ends⟩
          · simp only [parse, noLook, noName, marked, further, flags, ok_bind,
              stops.sees_of_ne_nil ends, opened, if_false, Bool.false_eq_true]
          · simp only [bare, GroupKind.bare, alike]

/-- A name ends past the first closing bracket. -/
theorem eq_of_captureName {index : Nat} {names : List CaptureName} {cursor last : Cursor}
    {name : CaptureName} (success : captureName index names cursor = .ok (name, last)) :
    last = (takeWhile (· != '>') advance cursor.rest.length cursor).2.advance := by
  simp only [captureName, refuse] at success
  split at success
  · cases success
  · split at success
    · cases success
    · split at success
      · cases success
      · split at success
        · cases success
        · split at success
          · cases success
          · cases success
            rfl

theorem parse_suffix {index : Nat} {names : List CaptureName} {cursor last : Cursor}
    {found : Opening} (success : parse index names cursor = .ok (found, last)) :
    last.rest <:+ cursor.rest.tail := by
  by_cases plain : found.isPlain = true
  · exact (parse_persists plain success).1
  · simp only [parse] at success
    split at success
    · cases success
    · split at success
      · rename_i startsWithP sign marked
        obtain ⟨⟨name, mid⟩, named, equal⟩ := bind_eq_ok_iff.1 success
        cases equal
        have signed : sign.rest <:+ cursor.next.rest := by
          simp only [named?, Option.orElse_eq_orElse, Option.orElse_eq_or, Option.or_eq_some_iff,
            Option.map_eq_some_iff] at marked
          rcases marked with ⟨_, found, equal⟩ | ⟨_, _, found, equal⟩ <;> cases equal <;>
            exact expect?_suffix found
        rw [eq_of_captureName named]
        exact (((advance_suffix _).trans (List.tail_suffix _)).trans
          (takeWhile_suffix advance_suffix ..)).trans (signed.trans (next_suffix cursor))
      · split at success
        · cases success
          exact next_suffix cursor
        · simp only [refuse, unless_eq_ok_iff, bind_eq_ok_iff, Prod.exists] at success
          obtain ⟨_, list, close, _, success⟩ := success
          split at success
          · obtain ⟨_, equal⟩ := unless_eq_ok_iff.1 success
            cases equal
            exact absurd rfl plain
          · cases success
            exact absurd rfl plain

end Opening

end SchemaMatch.Syntax
