import SchemaMatch.Expr.Basic
import SchemaMatch.Proofs.Expr.SelfContained

/-!
# Reading composed patterns

The pattern of a tree is read part by part: each part adds its items to the level that it stands
in, and leaves everything around it as it was. `Adds` says this of a text, and there is one law for
each way in which trees are printed.
-/

namespace SchemaMatch

namespace Syntax

open Cursor

/-- A group that captures nothing and switches no flags, without places. -/
def GroupKind.plain : GroupKind := .nonCapturing ⟨.nowhere, []⟩

namespace Cursor

variable {cursor : Cursor} {c : Char} {more : List Char}

/-- Nothing is skipped before a character that is neither blank nor a number sign. -/
theorem skip_of_visible (rest : cursor.rest = c :: more) (visible : Unicode.isBlank c = false)
    (noSign : c ≠ '#') : cursor.skip = cursor := by
  match cursor, rest with
  | ⟨_, position, verbose⟩, rfl =>
    cases verbose with
    | false => rfl
    | true => simp [skip, skipFrom, visible, noSign]

theorem skip_of_ended (ended : cursor.rest = []) : cursor.skip = cursor := by
  cases cursor with
  | mk rest position verbose =>
    cases ended
    cases verbose with
    | false => rfl
    | true => rfl

theorem next_of_visible {first : Char} (rest : cursor.rest = first :: c :: more)
    (visible : Unicode.isBlank c = false) (noSign : c ≠ '#') : cursor.next = cursor.advance := by
  have following : cursor.advance.rest = c :: more := by rw [rest_advance, rest, List.tail_cons]
  rw [next, skip_of_visible following visible noSign]

theorem sees_of_rest (rest : cursor.rest = c :: more) (other : Char) :
    cursor.sees other = (c == other) := by
  rw [sees, peek?, rest]
  rfl

end Cursor

namespace Reader

variable {reader : Reader} {octalAllowed : Bool} {more : List Char}

theorem LeadsTo.of_visible {result : Reader} {c : Char} (rest : reader.cursor.rest = c :: more)
    (visible : Unicode.isBlank c = false) (noSign : c ≠ '#')
    (success : reader.step octalAllowed c = .ok result)
    (shorter : result.cursor.rest.length ≤ more.length) :
    LeadsTo octalAllowed reader result := by
  have still := skip_of_visible rest visible noSign
  refine .of_step (c := c) ?_ ?_ ?_
  · rw [still, peek?, rest]
    rfl
  · rw [still]
    exact success
  · rw [rest, List.length_cons]
    omega

/-- One reader has opened a group that the other one stands before. -/
structure Opens (kind : GroupKind) (reader result : Reader) : Prop where
  verbose : result.cursor.verbose = reader.cursor.verbose
  level : result.level.bare = ⟨Position.first, [], none⟩
  frames : ∃ span opened, result.frames =
    ⟨reader.level, span, opened, reader.cursor.verbose⟩ :: reader.frames ∧ opened.bare = kind
  names : result.names = reader.names

theorem leadsTo_plain (rest : reader.cursor.rest = '(' :: '?' :: ':' :: more) :
    ∃ result, LeadsTo octalAllowed reader result ∧ Opens .plain reader result ∧
      result.cursor.rest = more ∧ result.nextIndex = reader.nextIndex := by
  have inside := next_of_visible rest rfl (by decide)
  have sign : reader.cursor.advance.rest = '?' :: ':' :: more := by
    rw [rest_advance, rest, List.tail_cons]
  have colon : reader.cursor.advance.advance.rest = ':' :: more := by
    rw [rest_advance, sign, List.tail_cons]
  have after : reader.cursor.advance.advance.advance.rest = more := by
    rw [rest_advance, colon, List.tail_cons]
  have unfinished : reader.cursor.advance.advance.atEnd = false := by
    rw [atEnd_eq_false_iff, colon]
    exact List.cons_ne_nil _ _
  have list : Opening.flagList reader.cursor.advance.advance =
      .ok (⟨reader.cursor.advance.advance.here, []⟩, reader.cursor.advance.advance) := by
    simp only [Opening.flagList, colon, List.length_cons, Opening.flagItems, peek?,
      List.head?_cons]
    rfl
  have opened : Opening.parse reader.nextIndex reader.names reader.cursor =
      .ok (.group reader.cursor.charSpan
        (.nonCapturing ⟨reader.cursor.advance.advance.here, []⟩),
        reader.cursor.advance.advance.advance) := by
    simp [Opening.parse, inside, Opening.lookAround?, Opening.named?, expect?,
      sees_of_rest sign, sees_of_rest colon, unfinished, list]
  let list : FlagList := ⟨reader.cursor.advance.advance.here, []⟩
  let inner := reader.cursor.advance.advance.advance
  let frame : Frame :=
    ⟨reader.level, reader.cursor.charSpan, .nonCapturing list, inner.verbose⟩
  refine ⟨⟨inner, Level.starting inner, frame :: reader.frames, reader.nextIndex, reader.names⟩,
    .of_visible rest rfl (by decide) ?_ ?_,
    ⟨?_, rfl, ⟨frame.span, frame.kind, ?_, rfl⟩, rfl⟩, after, rfl⟩
  · simp only [step, opening, opened, ok_bind]
    rfl
  · simp only [inner, after, List.length_cons]
    omega
  · simp only [inner, verbose_advance]
  · simp only [frame, inner, verbose_advance]

theorem leadsTo_capture {c : Char} (rest : reader.cursor.rest = '(' :: c :: more)
    (paren : c = '(' ∨ c = ')') :
    ∃ result, LeadsTo octalAllowed reader result ∧
      Opens (.captureIndex reader.nextIndex) reader result ∧ result.cursor.rest = c :: more ∧
      result.nextIndex = reader.nextIndex + 1 := by
  have visible : Unicode.isBlank c = false ∧ c ≠ '#' ∧ c ≠ '?' := by
    rcases paren with rfl | rfl
    · exact ⟨rfl, by decide, by decide⟩
    · exact ⟨rfl, by decide, by decide⟩
  obtain ⟨visible, noSign, noMark⟩ := visible
  have inside := next_of_visible rest visible noSign
  have following : reader.cursor.advance.rest = c :: more := by
    rw [rest_advance, rest, List.tail_cons]
  have opened : Opening.parse reader.nextIndex reader.names reader.cursor =
      .ok (.group reader.cursor.charSpan (.captureIndex reader.nextIndex),
        reader.cursor.advance) := by
    simp [Opening.parse, inside, Opening.lookAround?, Opening.named?, expect?,
      sees_of_rest following, noMark]
  let inner := reader.cursor.advance
  let frame : Frame :=
    ⟨reader.level, reader.cursor.charSpan, .captureIndex reader.nextIndex, inner.verbose⟩
  refine ⟨⟨inner, Level.starting inner, frame :: reader.frames, reader.nextIndex + 1,
    reader.names⟩, .of_visible rest rfl (by decide) ?_ ?_,
    ⟨?_, rfl, ⟨frame.span, frame.kind, ?_, rfl⟩, rfl⟩, following, rfl⟩
  · simp only [step, opening, opened, ok_bind]
    rfl
  · exact Nat.le_of_eq (congrArg List.length following)
  · simp only [inner, verbose_advance]
  · simp only [frame, inner, verbose_advance]

theorem leadsTo_closing {outer : Level} {span : Span} {kind : GroupKind} {verbose : Bool}
    {frames : List Frame} {sub : Ast} (rest : reader.cursor.skip.rest = ')' :: more)
    (opened : reader.frames = ⟨outer, span, kind, verbose⟩ :: frames)
    (tree : ∀ position, (reader.level.toAst position).bare = sub) :
    ∃ result, LeadsTo octalAllowed reader result ∧ result.cursor.rest = more ∧
      result.cursor.verbose = verbose ∧
      result.level.bare = ⟨Position.first, .group .nowhere kind.bare sub :: outer.bare.reversed,
        outer.bare.earlier⟩ ∧
      result.frames = frames ∧ result.nextIndex = reader.nextIndex ∧
      result.names = reader.names := by
  let skipped := reader.cursor.skip
  let after : Cursor := { skipped.advance with verbose := verbose }
  let group := Ast.group (after.since span.start) kind (reader.level.toAst skipped.position)
  have passed : after.rest = more := by
    simp only [after, skipped, rest_advance, rest, List.tail_cons]
  refine ⟨{ reader with cursor := after, level := outer.push group, frames },
    .of_step (c := ')') ?_ ?_ ?_, passed, rfl, ?_, rfl, rfl, rfl⟩
  · rw [peek?, rest]
    rfl
  · simp only [step, closing, opened]
    rfl
  · have fewer := (skip_suffix reader.cursor).length_le
    rw [rest, List.length_cons] at fewer
    simp only [passed]
    omega
  · simp only [Level.bare_push, group, Ast.bare, tree]

theorem leadsTo_optionalMark {swapGreed : Bool} {item : Ast} {before : List Ast}
    (rest : reader.cursor.rest = Expr.optionalMark swapGreed ++ more)
    (head : more.head? ≠ some '?') (items : reader.level.bare.reversed = item :: before)
    (repeatable : Repetition.isRepeatable item = true) :
    ∃ result, LeadsTo octalAllowed reader result ∧ result.cursor.rest = more ∧
      result.cursor.verbose = reader.cursor.verbose ∧
      result.level.bare = ⟨Position.first,
        .repetition .nowhere .zeroOrOne (!swapGreed) item :: before,
        reader.level.bare.earlier⟩ ∧
      result.frames = reader.frames ∧ result.nextIndex = reader.nextIndex ∧
      result.names = reader.names := by
  obtain ⟨last, others, reversed, same, rests⟩ := List.map_eq_cons_iff.1 items
  have applies : Repetition.operand reader.level.reversed reader.cursor = .ok (last, others) := by
    rw [reversed, Repetition.operand, ← Repetition.isRepeatable_bare, same, if_pos repeatable]
  obtain ⟨mark, lazy⟩ : reader.cursor.rest = '?' :: reader.cursor.advance.rest ∧
      reader.cursor.advance.rest = (if swapGreed then '?' :: more else more) := by
    rw [rest_advance, rest]
    cases swapGreed with
    | false => exact ⟨rfl, rfl⟩
    | true => exact ⟨rfl, rfl⟩
  have signs : (Repetition.laziness reader.cursor.advance).1 = !swapGreed ∧
      (Repetition.laziness reader.cursor.advance).2.rest = more ∧
      (Repetition.laziness reader.cursor.advance).2.verbose = reader.cursor.verbose := by
    cases swapGreed with
    | false =>
      have unseen : reader.cursor.advance.sees '?' = false := by
        rw [sees, beq_eq_false_iff_ne, peek?, lazy]
        exact head
      simp only [Repetition.laziness, unseen, Bool.false_eq_true, if_false, lazy, verbose_advance]
      exact ⟨rfl, trivial, trivial⟩
    | true =>
      have seen : reader.cursor.advance.sees '?' = true := by
        rw [sees_of_rest lazy]
        rfl
      simp only [Repetition.laziness, seen, if_true, rest_advance reader.cursor.advance, lazy,
        verbose_advance]
      exact ⟨rfl, rfl, trivial⟩
  obtain ⟨greedy, after, verbose⟩ := signs
  let found : List Ast × Cursor :=
    (Repetition.apply last .zeroOrOne (Repetition.laziness reader.cursor.advance).1
      (Repetition.laziness reader.cursor.advance).2 :: others,
      (Repetition.laziness reader.cursor.advance).2)
  refine ⟨reader.repeated found, .of_visible mark rfl (by decide) ?_ ?_, after, verbose, ?_, rfl,
    rfl, rfl⟩
  · simp only [step, Repetition.parse, applies, ok_bind, found]
    rfl
  · simp only [repeated, found, after, lazy]
    split
    · exact Nat.le_succ _
    · exact Nat.le_refl _
  · simp only [repeated, found, Level.bare, List.map_cons, Repetition.apply, Ast.bare, same, rests,
      greedy]

theorem leadsTo_bar (rest : reader.cursor.rest = '|' :: more) :
    LeadsTo octalAllowed reader { reader with
      level := reader.level.nextBranch reader.cursor, cursor := reader.cursor.advance } := by
  refine .of_visible rest rfl (by decide) rfl ?_
  exact Nat.le_of_eq (by rw [rest_advance, rest, List.tail_cons])

/-- One reader has added items to the level of another one, and has kept what is around it. -/
structure Added (verbose : Bool) (items : List Ast) (more : List Char) (next : Nat)
    (reader result : Reader) : Prop where
  rest : result.cursor.rest = more
  verbose : result.cursor.verbose = verbose
  level : result.level.bare =
    ⟨Position.first, items.reverse ++ reader.level.bare.reversed, reader.level.bare.earlier⟩
  frames : result.frames = reader.frames
  nextIndex : result.nextIndex = next
  names : result.names = reader.names

end Reader

open Reader (LeadsTo Added)

/-- Reading a text adds items, wherever the text stands before something other than a question
mark. The next group has the first index before the text and the second one after it. -/
def Adds (octalAllowed verbose : Bool) (text : List Char) (first : Nat) (items : List Ast)
    (next : Nat) : Prop :=
  ∀ (reader : Reader) (more : List Char), reader.cursor.rest = text ++ more →
    reader.cursor.verbose = verbose → reader.nextIndex = first → more.head? ≠ some '?' →
    ∃ result, LeadsTo octalAllowed reader result ∧ Added verbose items more next reader result

/-- The items of a branch as one tree without places. -/
def Ast.ofItems : List Ast → Ast
  | [] => .empty .nowhere
  | [item] => item
  | items => .concat .nowhere items

def Ast.ofBranches : List Ast → Ast
  | [] => .empty .nowhere
  | [branch] => branch
  | branches => .alternation .nowhere branches

theorem Ast.ofItems_of_two {items : List Ast} (two : 2 ≤ items.length) :
    Ast.ofItems items = .concat .nowhere items := by
  match items, two with
  | _ :: _ :: _, _ => rfl

theorem Ast.ofBranches_of_two {branches : List Ast} (two : 2 ≤ branches.length) :
    Ast.ofBranches branches = .alternation .nowhere branches := by
  match branches, two with
  | _ :: _ :: _, _ => rfl

theorem Level.branch_of_two {level : Level} (two : 2 ≤ level.reversed.length)
    (stop : Position) : level.branch stop = .concat ⟨level.start, stop⟩ level.reversed.reverse := by
  match level, two with
  | ⟨_, _ :: _ :: _, _⟩, _ => rfl

theorem Level.branch_bare_eq {level : Level} {items : List Ast}
    {earlier : Option (Position × List Ast)}
    (bare : level.bare = ⟨Position.first, items.reverse, earlier⟩) (stop : Position) :
    (level.branch stop).bare = Ast.ofItems items := by
  rw [← Level.branch_bare, bare]
  match items with
  | [] => rfl
  | [item] => rfl
  | one :: two :: rest =>
    rw [Level.branch_of_two (by simp), List.reverse_reverse, Ast.ofItems_of_two (by simp)]
    rfl

def earlierBranches (done : List Ast) : Option (Position × List Ast) :=
  if done.isEmpty then none else some (Position.first, done.reverse)

theorem Level.toAst_bare_eq {level : Level} {items done : List Ast}
    (bare : level.bare = ⟨Position.first, items.reverse, earlierBranches done⟩)
    (stop : Position) :
    (level.toAst stop).bare = Ast.ofBranches (done ++ [Ast.ofItems items]) := by
  have last := branch_bare_eq bare stop
  rw [← branch_bare, bare] at last
  rw [← toAst_bare, bare]
  match done with
  | [] => exact last
  | first :: rest =>
    rw [Ast.ofBranches_of_two (by simp)]
    simp only [earlierBranches, List.isEmpty_cons, Bool.false_eq_true, if_false, toAst] at last ⊢
    rw [last, List.reverse_cons, List.reverse_reverse]
    rfl

theorem earlierBranches_append (done : List Ast) (branch : Ast) :
    earlierBranches (done ++ [branch]) = some (Position.first, branch :: done.reverse) := by
  simp [earlierBranches]

theorem Level.nextBranch_bare_eq {level : Level} {items done : List Ast}
    (bare : level.bare = ⟨Position.first, items.reverse, earlierBranches done⟩) (bar : Cursor) :
    (level.nextBranch bar).bare =
      ⟨Position.first, [], earlierBranches (done ++ [Ast.ofItems items])⟩ := by
  have last := branch_bare_eq bare bar.position
  have earlier := congrArg Level.earlier bare
  rw [earlierBranches_append]
  match level, done, earlier with
  | ⟨_, _, none⟩, [], _ =>
    simp only [nextBranch, Level.bare, Option.map_some, List.map_cons, List.map_nil, last]
    rfl
  | ⟨_, _, some (_, branches)⟩, first :: rest, earlier =>
    simp only [earlierBranches, Level.bare, Option.map_some, List.isEmpty_cons, Bool.false_eq_true,
      if_false, Option.some.injEq, Prod.mk.injEq, true_and] at earlier
    simp only [nextBranch, Level.bare, Option.map_some, List.map_cons, List.map_nil, last, earlier]

namespace Adds

variable {octalAllowed verbose : Bool} {text : List Char} {first middle next : Nat}
  {items others : List Ast}

theorem nil (octalAllowed verbose : Bool) (first : Nat) :
    Adds octalAllowed verbose [] first [] first := by
  intro reader more rest skips index _
  exact ⟨reader, .refl _ _, rest, skips, rfl, rfl, index, rfl⟩

theorem append {after : List Char} (one : Adds octalAllowed verbose text first items middle)
    (two : Adds octalAllowed verbose after middle others next)
    (noMark : after.head? ≠ some '?') :
    Adds octalAllowed verbose (text ++ after) first (items ++ others) next := by
  intro reader more rest skips index head
  have inside : (after ++ more).head? ≠ some '?' := by
    cases after with
    | nil => exact head
    | cons c after => exact noMark
  rw [List.append_assoc] at rest
  obtain ⟨mid, leads, added⟩ := one reader (after ++ more) rest skips index inside
  obtain ⟨result, reaches, adds⟩ := two mid more added.rest added.verbose added.nextIndex head
  refine ⟨result, leads.trans reaches, adds.rest, adds.verbose, ?_, adds.frames.trans added.frames,
    adds.nextIndex, adds.names.trans added.names⟩
  rw [adds.level, added.level, List.reverse_append, List.append_assoc]

theorem of_opens {reader opened inner : Reader} {kind : GroupKind} {sub : Ast} {more : List Char}
    (begins : LeadsTo octalAllowed reader opened) (opens : Reader.Opens kind reader opened)
    (reads : LeadsTo octalAllowed opened inner) (rest : inner.cursor.skip.rest = ')' :: more)
    (tree : ∀ position, (inner.level.toAst position).bare = sub)
    (frames : inner.frames = opened.frames) (nextIndex : inner.nextIndex = next)
    (names : inner.names = opened.names) (skips : reader.cursor.verbose = verbose) :
    ∃ result, LeadsTo octalAllowed reader result ∧
      Added verbose [.group .nowhere kind sub] more next reader result := by
  obtain ⟨span, written, stack, same⟩ := opens.frames
  obtain ⟨result, ends, rests, still, level, outer, index, kept⟩ :=
    Reader.leadsTo_closing rest (frames.trans stack) tree
  refine ⟨result, begins.trans (reads.trans ends), rests, still.trans skips, ?_, outer,
    index.trans nextIndex, kept.trans (names.trans opens.names)⟩
  rw [level, same]
  rfl

/-- A self-contained fragment adds a plain group around its tree. -/
theorem fragment {options : Options} {fragment : String}
    (contained : Fragment.IsSelfContained options fragment) (first : Nat) :
    Adds options.octal options.ignoreWhitespace
      ('(' :: '?' :: ':' :: fragment.toList ++ [')']) first
      [.group .nowhere .plain (bareTree options fragment)] first := by
  intro reader more rest skips index _
  have start : reader.cursor.rest = '(' :: '?' :: ':' :: (fragment.toList ++ ')' :: more) := by
    rw [rest]
    simp
  obtain ⟨opened, begins, opens, inside, counted⟩ := Reader.leadsTo_plain start
  obtain ⟨inner, reads, closing, tree, frames, nextIndex, names⟩ :=
    leadsTo_of_isSelfContained contained inside (opens.verbose.trans skips) opens.level
  exact of_opens begins opens reads closing tree frames
    (nextIndex.trans (counted.trans index)) names skips

/-- What stands before a closing parenthesis in an opened group is its tree. -/
theorem closes (adds : Adds octalAllowed verbose text first items next) {opened : Reader}
    {more : List Char} (rest : opened.cursor.rest = text ++ ')' :: more)
    (skips : opened.cursor.verbose = verbose) (index : opened.nextIndex = first)
    (level : opened.level.bare = ⟨Position.first, [], none⟩) :
    ∃ inner, LeadsTo octalAllowed opened inner ∧ inner.cursor.skip.rest = ')' :: more ∧
      (∀ position, (inner.level.toAst position).bare = Ast.ofItems items) ∧
      inner.frames = opened.frames ∧ inner.nextIndex = next ∧ inner.names = opened.names := by
  obtain ⟨inner, leads, added⟩ := adds opened (')' :: more) rest skips index (by simp)
  refine ⟨inner, leads, ?_, fun position => ?_, added.frames, added.nextIndex, added.names⟩
  · rw [Cursor.skip_of_visible added.rest rfl (by decide), added.rest]
  · have bare : inner.level.bare = ⟨Position.first, items.reverse, earlierBranches []⟩ := by
      rw [added.level, level, List.append_nil]
      rfl
    exact Level.toAst_bare_eq bare position

/-- A capturing group adds itself, around the items of what stands in it. -/
theorem capture (adds : Adds octalAllowed verbose text (first + 1) items next)
    (head : text = [] ∨ text.head? = some '(') :
    Adds octalAllowed verbose ('(' :: text ++ [')']) first
      [.group .nowhere (.captureIndex first) (Ast.ofItems items)] next := by
  intro reader more rest skips index _
  obtain ⟨c, inside, paren, split⟩ : ∃ c inside, (c = '(' ∨ c = ')') ∧
      text ++ ')' :: more = c :: inside := by
    cases text with
    | nil => exact ⟨')', more, .inr rfl, rfl⟩
    | cons c text =>
      rcases head with empty | head
      · cases empty
      · cases head
        exact ⟨'(', text ++ ')' :: more, .inl rfl, rfl⟩
  have start : reader.cursor.rest = '(' :: c :: inside := by
    rw [rest, ← split]
    simp
  obtain ⟨opened, begins, opens, follows, counted⟩ := Reader.leadsTo_capture start paren
  rw [index] at counted opens
  obtain ⟨inner, reads, closing, tree, frames, nextIndex, names⟩ :=
    adds.closes (follows.trans split.symm) (opens.verbose.trans skips) counted opens.level
  exact of_opens begins opens reads closing tree frames nextIndex names skips

/-- A plain group, wherever it stands, adds itself around the items of what stands in it. -/
theorem plain_added (adds : Adds octalAllowed verbose text first items next) {reader : Reader}
    {more : List Char}
    (rest : reader.cursor.rest = '(' :: '?' :: ':' :: (text ++ ')' :: more))
    (skips : reader.cursor.verbose = verbose) (index : reader.nextIndex = first) :
    ∃ result, LeadsTo octalAllowed reader result ∧
      Added verbose [.group .nowhere .plain (Ast.ofItems items)] more next reader result := by
  obtain ⟨opened, begins, opens, inside, counted⟩ := Reader.leadsTo_plain rest
  obtain ⟨inner, reads, closing, tree, frames, nextIndex, names⟩ :=
    adds.closes inside (opens.verbose.trans skips) (counted.trans index) opens.level
  exact of_opens begins opens reads closing tree frames nextIndex names skips

/-- An optional part adds a plain group that is repeated. -/
theorem optional {swapGreed : Bool} (adds : Adds octalAllowed verbose text first items next) :
    Adds octalAllowed verbose
      ('(' :: '?' :: ':' :: text ++ ')' :: Expr.optionalMark swapGreed) first
      [.repetition .nowhere .zeroOrOne (!swapGreed)
        (.group .nowhere .plain (Ast.ofItems items))] next := by
  intro reader more rest skips index head
  have start : reader.cursor.rest =
      '(' :: '?' :: ':' :: (text ++ ')' :: (Expr.optionalMark swapGreed ++ more)) := by
    rw [rest]
    simp
  obtain ⟨mid, begins, added⟩ := adds.plain_added start skips index
  obtain ⟨result, marks, after, still, level, frames, nextIndex, names⟩ :=
    Reader.leadsTo_optionalMark added.rest head (by rw [added.level]; rfl) rfl
  refine ⟨result, begins.trans marks, after, still.trans added.verbose, ?_,
    frames.trans added.frames, nextIndex.trans added.nextIndex, names.trans added.names⟩
  rw [level, added.level]
  rfl

/-- A plain group adds itself around the items of what stands in it. -/
theorem plain (adds : Adds octalAllowed verbose text first items next) :
    Adds octalAllowed verbose ('(' :: '?' :: ':' :: text ++ [')']) first
      [.group .nowhere .plain (Ast.ofItems items)] next := by
  intro reader more rest skips index _
  exact adds.plain_added (by rw [rest]; simp) skips index

end Adds

def AddsBranches (octalAllowed verbose : Bool) (text : List Char) (first : Nat)
    (branches : List Ast) (next : Nat) : Prop :=
  ∀ (reader : Reader) (more : List Char) (done : List Ast),
    reader.cursor.rest = text ++ ')' :: more → reader.cursor.verbose = verbose →
    reader.nextIndex = first →
    reader.level.bare = ⟨Position.first, [], earlierBranches done⟩ →
    ∃ inner, LeadsTo octalAllowed reader inner ∧ inner.cursor.skip.rest = ')' :: more ∧
      (∀ position, (inner.level.toAst position).bare = Ast.ofBranches (done ++ branches)) ∧
      inner.frames = reader.frames ∧ inner.nextIndex = next ∧ inner.names = reader.names

namespace AddsBranches

variable {octalAllowed verbose : Bool} {text : List Char} {first middle next : Nat}
  {items branches : List Ast}

theorem last (adds : Adds octalAllowed verbose text first items next) :
    AddsBranches octalAllowed verbose text first [Ast.ofItems items] next := by
  intro reader more done rest skips index level
  obtain ⟨inner, leads, added⟩ := adds reader (')' :: more) rest skips index (by simp)
  refine ⟨inner, leads, ?_, fun position => ?_, added.frames, added.nextIndex, added.names⟩
  · rw [Cursor.skip_of_visible added.rest rfl (by decide), added.rest]
  · have bare : inner.level.bare =
        ⟨Position.first, items.reverse, earlierBranches done⟩ := by
      rw [added.level, level, List.append_nil]
    exact Level.toAst_bare_eq bare position

theorem before {others : List Char} (adds : Adds octalAllowed verbose text first items middle)
    (rests : AddsBranches octalAllowed verbose others middle branches next) :
    AddsBranches octalAllowed verbose (text ++ '|' :: others) first
      (Ast.ofItems items :: branches) next := by
  intro reader more done rest skips index level
  obtain ⟨mid, leads, added⟩ :=
    adds reader ('|' :: (others ++ ')' :: more)) (by rw [rest]; simp) skips index (by simp)
  have bare : mid.level.bare = ⟨Position.first, items.reverse, earlierBranches done⟩ := by
    rw [added.level, level, List.append_nil]
  obtain ⟨inner, reaches, closing, tree, frames, nextIndex, names⟩ :=
    rests { mid with level := mid.level.nextBranch mid.cursor, cursor := mid.cursor.advance }
      more (done ++ [Ast.ofItems items])
      (by simp only [Cursor.rest_advance, added.rest, List.tail_cons])
      (by simp only [Cursor.verbose_advance, added.verbose]) added.nextIndex
      (Level.nextBranch_bare_eq bare mid.cursor)
  refine ⟨inner, leads.trans ((Reader.leadsTo_bar added.rest).trans reaches), closing, ?_,
    frames.trans added.frames, nextIndex, names.trans added.names⟩
  simpa only [List.append_assoc, List.singleton_append] using tree

theorem choice (adds : AddsBranches octalAllowed verbose text first branches next) :
    Adds octalAllowed verbose ('(' :: '?' :: ':' :: text ++ [')']) first
      [.group .nowhere .plain (Ast.ofBranches branches)] next := by
  intro reader more rest skips index _
  have start : reader.cursor.rest = '(' :: '?' :: ':' :: (text ++ ')' :: more) := by
    rw [rest]
    simp
  obtain ⟨opened, begins, opens, inside, counted⟩ := Reader.leadsTo_plain start
  obtain ⟨inner, reads, closing, tree, frames, nextIndex, names⟩ :=
    adds opened more [] inside (opens.verbose.trans skips) (counted.trans index) opens.level
  exact Adds.of_opens begins opens reads closing tree frames nextIndex names skips

end AddsBranches

end Syntax

end SchemaMatch
