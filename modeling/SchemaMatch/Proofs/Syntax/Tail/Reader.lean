import SchemaMatch.Proofs.Syntax.Groups
import SchemaMatch.Proofs.Syntax.Tail.Group
import SchemaMatch.Proofs.Syntax.Tail.Repetition

/-!
# Patterns inside a group

A pattern that captures nothing reads the same at the start of a group as it does alone, up to the
parenthesis that closes the group, unless it ends in a comment that hides the parenthesis. The
invariant is `Reader.Inside`: one reader is where another one is, inside further groups and before
a tail. One step keeps it, and so does reading to the end of the pattern.
-/

namespace SchemaMatch.Syntax

open Cursor

namespace Reader

/-- One reader is where another one is, but for places: inside some outer frames, before a tail,
and with a count and names of groups of its own. -/
structure Inside (short : Reader) (tail : List Char) (outer : List Frame) (index : Nat)
    (names : List CaptureName) (long : Reader) : Prop where
  cursor : short.cursor.Extends tail long.cursor
  level : long.level.bare = short.level.bare
  frames : ∃ inner, long.frames = inner ++ outer ∧
    inner.map Frame.bare = short.frames.map Frame.bare
  nextIndex : long.nextIndex = index
  names : long.names = names

variable {short long result : Reader} {tail more : List Char} {outer : List Frame} {index : Nat}
  {names : List CaptureName} {octalAllowed : Bool}

namespace Inside

theorem push (inside : short.Inside tail outer index names long) {item twin : Ast}
    {cursor far : Cursor} (alike : twin.bare = item.bare) (stops : cursor.Extends more far) :
    (short.push item cursor).Inside more outer index names (long.push twin far) where
  cursor := stops
  level := Level.push_of_bare inside.level alike
  frames := inside.frames
  nextIndex := inside.nextIndex
  names := inside.names

theorem repeated (inside : short.Inside tail outer index names long) {items others : List Ast}
    {cursor far : Cursor} (alike : others.map Ast.bare = items.map Ast.bare)
    (stops : cursor.Extends more far) :
    (short.repeated (items, cursor)).Inside more outer index names
      (long.repeated (others, far)) where
  cursor := stops
  level := by
    have earlier := congrArg Level.earlier inside.level
    simp only [Level.bare] at earlier
    simp only [Reader.repeated, Level.bare, alike, earlier]
  frames := inside.frames
  nextIndex := inside.nextIndex
  names := inside.names

/-- Items on both sides are equal but for places. -/
theorem reversed (inside : short.Inside tail outer index names long) :
    long.level.reversed.map Ast.bare = short.level.reversed.map Ast.bare :=
  congrArg Level.reversed inside.level

end Inside

/-- A step of a reader has its like inside a group, before every closing tail. -/
structure StepsInside (octalAllowed : Bool) (c : Char) (short result : Reader) : Prop where
  shorter : result.cursor.rest <:+ short.cursor.rest.tail
  again : ∃ hidden, (hidden = true → result.cursor.rest = []) ∧
    ∀ tail outer index names long, Closes hidden tail →
      short.Inside tail outer index names long →
      ∃ other, long.step octalAllowed c = .ok other ∧
        result.Inside (remaining hidden tail) outer index names other

theorem StepsInside.of_item {ι α : Type} {c : Char}
    {read : ι → Cursor → Except SyntaxError (α × Cursor)} {bare : α → α} {found : α}
    {last : Cursor} (toAst : α → Ast)
    (persists : Persists read bare short.cursor found last)
    (places : ∀ item other, bare other = bare item → (toAst other).bare = (toAst item).bare)
    (start : Reader → ι)
    (steps : ∀ long : Reader, long.step octalAllowed c =
      read (start long) long.cursor >>= fun next =>
        .ok (long.push (toAst next.1) next.2)) :
    StepsInside octalAllowed c short (short.push (toAst found) last) := by
  obtain ⟨shorter, hidden, empty, again⟩ := persists
  refine ⟨shorter, hidden, empty, fun tail outer index names long closes inside => ?_⟩
  obtain ⟨other, stop, success, alike, stops⟩ :=
    again tail long.cursor (start long) closes inside.cursor
  refine ⟨long.push (toAst other) stop, ?_, inside.push (places _ _ alike) stops⟩
  rw [steps, success]
  rfl

theorem StepsInside.of_repeated {c : Char} {items : List Ast} {last : Cursor}
    {read : List Ast → Cursor → Except SyntaxError (List Ast × Cursor)}
    (persists : Persists (fun others : Repetition.Alike short.level.reversed => read others)
      (List.map Ast.bare) short.cursor items last)
    (steps : ∀ long : Reader, long.step octalAllowed c =
      long.repeated <$> read long.level.reversed long.cursor) :
    StepsInside octalAllowed c short (short.repeated (items, last)) := by
  obtain ⟨shorter, hidden, empty, again⟩ := persists
  refine ⟨shorter, hidden, empty, fun tail outer index names long closes inside => ?_⟩
  obtain ⟨others, stop, success, alike, stops⟩ :=
    again tail long.cursor ⟨long.level.reversed, inside.reversed⟩ closes inside.cursor
  refine ⟨long.repeated (others, stop), ?_, inside.repeated alike stops⟩
  rw [steps, success]
  rfl

/-- A switch of flags, or the opening of a group that captures nothing, steps inside. -/
theorem stepsInside_of_opening (success : short.opening = .ok result)
    (plain : result.IsPlain) : StepsInside octalAllowed '(' short result := by
  obtain ⟨⟨found, last⟩, opened, success⟩ := bind_eq_ok_iff.1 success
  have nothing : found.isPlain = true := by
    cases found with
    | flags span list => rfl
    | group span kind =>
      cases success
      have captures := (plain.frames _ List.mem_cons_self).2
      cases kind with
      | captureIndex index => cases captures
      | captureName startsWithP name => cases captures
      | nonCapturing list => rfl
  obtain ⟨shorter, hidden, empty, again⟩ := Opening.parse_persists nothing opened
  cases found with
  | flags span list =>
    cases success
    refine ⟨shorter, hidden, empty, fun tail outer index names long closes inside => ?_⟩
    obtain ⟨other, stop, opens, alike, stops⟩ :=
      again tail long.cursor (long.nextIndex, long.names) closes inside.cursor
    cases other with
    | group place kind => cases alike
    | flags place twin =>
      have same : twin.bare = list.bare := (Opening.flags.inj alike).2
      have verbose : (twin.state? .ignoreWhitespace).getD stop.verbose =
          (list.state? .ignoreWhitespace).getD last.verbose := by
        rw [← FlagList.state?_bare, same, FlagList.state?_bare, stops.verbose]
      refine ⟨long.push (.flags place twin)
        { stop with verbose := (twin.state? .ignoreWhitespace).getD stop.verbose }, ?_,
        inside.push ?_ ⟨stops.rest, verbose⟩⟩
      · simp only [step, opening, opens, ok_bind]
      · simp only [Ast.bare, same]
  | group span kind =>
    obtain ⟨list, rfl⟩ := Opening.exists_nonCapturing nothing
    cases success
    refine ⟨shorter, hidden, empty, fun tail outer index names long closes inside => ?_⟩
    obtain ⟨other, stop, opens, alike, stops⟩ :=
      again tail long.cursor (long.nextIndex, long.names) closes inside.cursor
    cases other with
    | flags place twin => cases alike
    | group place kind =>
      have kinds : kind.bare = (GroupKind.nonCapturing list).bare := (Opening.group.inj alike).2
      obtain ⟨twin, rfl⟩ := GroupKind.exists_of_bare kinds
      have verbose : (GroupKind.nonCapturing twin).verbose stop.verbose =
          (GroupKind.nonCapturing list).verbose last.verbose := by
        rw [← GroupKind.verbose_bare, kinds, GroupKind.verbose_bare, stops.verbose]
      obtain ⟨inner, frames, same⟩ := inside.frames
      let frame : Frame := ⟨long.level, place, .nonCapturing twin, stop.verbose⟩
      refine ⟨⟨{ stop with verbose := frame.kind.verbose stop.verbose }, Level.starting stop,
        frame :: long.frames, long.nextIndex, long.names⟩, ?_, ⟨stops.rest, verbose⟩, rfl,
        ⟨frame :: inner, ?_, ?_⟩, inside.nextIndex, inside.names⟩
      · simp only [step, opening, opens, ok_bind, frame]
      · rw [frames]
        rfl
      · simp only [List.map_cons, same, frame, Frame.bare, inside.level, kinds, stops.verbose]

theorem stepsInside_of_closing (left : short.cursor.rest ≠ [])
    (success : short.closing = .ok result) : StepsInside octalAllowed ')' short result := by
  simp only [closing] at success
  split at success
  · cases success
  · rename_i frame frames opened
    cases success
    refine ⟨advance_suffix _, false, fun impossible => Bool.noConfusion impossible,
      fun tail outer index names long closes inside => ?_⟩
    obtain ⟨inner, split, same⟩ := inside.frames
    rw [opened, List.map_cons] at same
    cases inner with
    | nil => cases same
    | cons twin others =>
      obtain ⟨first, rest⟩ := List.cons.inj same
      simp only [Frame.bare, Frame.mk.injEq] at first
      obtain ⟨level, _, kind, verbose⟩ := first
      have stops := inside.cursor.advance left
      let far : Cursor := { long.cursor.advance with verbose := twin.verbose }
      let group := Ast.group (far.since twin.span.start) twin.kind
        (long.level.toAst long.cursor.position)
      refine ⟨{ long with cursor := far, level := twin.outer.push group, frames := others ++ outer },
        ?_, ⟨stops.rest, verbose⟩, Level.push_of_bare level ?_, ⟨others, rfl, rest⟩,
        inside.nextIndex, inside.names⟩
      · simp only [step, closing, split, List.cons_append, far, group]
      · simp only [group, Ast.bare, kind,
          Level.toAst_of_bare inside.level short.cursor.position]

theorem stepsInside_of_step {c : Char} (seen : short.cursor.peek? = some c)
    (success : short.step octalAllowed c = .ok result) (plain : result.IsPlain) :
    StepsInside octalAllowed c short result := by
  have left := rest_ne_nil_of_peek? seen
  simp only [step] at success
  split at success
  · exact stepsInside_of_opening success plain
  · exact stepsInside_of_closing left success
  · cases success
    refine ⟨advance_suffix _, false, fun impossible => Bool.noConfusion impossible,
      fun tail outer index names long closes inside => ?_⟩
    exact ⟨_, rfl, inside.cursor.advance left, Level.nextBranch_of_bare inside.level _ _,
      inside.frames, inside.nextIndex, inside.names⟩
  · obtain ⟨⟨found, last⟩, closed, success⟩ := bind_eq_ok_iff.1 success
    cases success
    refine .of_item (fun (found : Bracket.Result) =>
      .bracketed found.span found.negated found.body) (Bracket.parse_persists closed)
      (fun item other same => ?_) (fun _ => ()) (fun long => rfl)
    simp only [Bracket.Result.bare, Bracket.Result.mk.injEq] at same
    simp only [Ast.bare, same]
  · obtain ⟨⟨items, last⟩, parsed, rfl⟩ := map_eq_ok_iff.1 success
    exact .of_repeated (Repetition.parse_persists left parsed) fun long => rfl
  · obtain ⟨⟨items, last⟩, parsed, rfl⟩ := map_eq_ok_iff.1 success
    exact .of_repeated (Repetition.parse_persists left parsed) fun long => rfl
  · obtain ⟨⟨items, last⟩, parsed, rfl⟩ := map_eq_ok_iff.1 success
    exact .of_repeated (Repetition.parse_persists left parsed) fun long => rfl
  · obtain ⟨⟨items, last⟩, parsed, rfl⟩ := map_eq_ok_iff.1 success
    exact .of_repeated (Repetition.parseCounted_persists parsed) fun long => rfl
  · obtain ⟨⟨found, last⟩, parsed, success⟩ := bind_eq_ok_iff.1 success
    cases success
    refine .of_item Primitive.toAst (Primitive.parse_persists seen parsed) (fun item other same => ?_)
      (fun _ => ()) (fun long => ?_)
    · rw [← Primitive.toAst_bare, same, Primitive.toAst_bare]
    · simp only [step]

theorem step_suffix {c : Char} (seen : short.cursor.peek? = some c)
    (success : short.step octalAllowed c = .ok result) :
    result.cursor.rest <:+ short.cursor.rest.tail := by
  have left := rest_ne_nil_of_peek? seen
  simp only [step] at success
  split at success
  · obtain ⟨⟨found, last⟩, opened, success⟩ := bind_eq_ok_iff.1 success
    have shorter := Opening.parse_suffix opened
    cases found <;> cases success <;> exact shorter
  · exact (stepsInside_of_closing left success : StepsInside octalAllowed ')' short result).shorter
  · cases success
    exact advance_suffix _
  · obtain ⟨⟨found, last⟩, closed, success⟩ := bind_eq_ok_iff.1 success
    cases success
    exact (Bracket.parse_persists closed).1
  · obtain ⟨⟨items, last⟩, parsed, rfl⟩ := map_eq_ok_iff.1 success
    exact (Repetition.parse_persists left parsed).1
  · obtain ⟨⟨items, last⟩, parsed, rfl⟩ := map_eq_ok_iff.1 success
    exact (Repetition.parse_persists left parsed).1
  · obtain ⟨⟨items, last⟩, parsed, rfl⟩ := map_eq_ok_iff.1 success
    exact (Repetition.parse_persists left parsed).1
  · obtain ⟨⟨items, last⟩, parsed, rfl⟩ := map_eq_ok_iff.1 success
    exact (Repetition.parseCounted_persists parsed).1
  · obtain ⟨⟨found, last⟩, parsed, success⟩ := bind_eq_ok_iff.1 success
    cases success
    exact (Primitive.parse_persists seen parsed).1

/-- Reading on from one reader amounts to reading on from another one. -/
def LeadsTo (octalAllowed : Bool) (reader result : Reader) : Prop :=
  ∀ bound, reader.cursor.rest.length ≤ bound →
    ∃ fewer, result.cursor.rest.length ≤ fewer ∧
      reader.run octalAllowed bound = result.run octalAllowed fewer

namespace LeadsTo

theorem refl (octalAllowed : Bool) (reader : Reader) : LeadsTo octalAllowed reader reader :=
  fun bound enough => ⟨bound, enough, rfl⟩

theorem trans {first second third : Reader} (one : LeadsTo octalAllowed first second)
    (two : LeadsTo octalAllowed second third) : LeadsTo octalAllowed first third := by
  intro bound enough
  obtain ⟨fewer, enough, same⟩ := one bound enough
  obtain ⟨least, enough, again⟩ := two fewer enough
  exact ⟨least, enough, same.trans again⟩

theorem of_step {reader result : Reader} {c : Char} (seen : reader.cursor.skip.peek? = some c)
    (success : step octalAllowed c { reader with cursor := reader.cursor.skip } = .ok result)
    (shorter : result.cursor.rest.length < reader.cursor.rest.length) :
    LeadsTo octalAllowed reader result := by
  intro bound enough
  cases bound with
  | zero => omega
  | succ bound =>
    refine ⟨bound, by omega, ?_⟩
    simp only [run, seen, success, ok_bind]

end LeadsTo

theorem Inside.skip (inside : short.Inside tail outer index names long)
    (left : short.cursor.skip.rest ≠ []) :
    ({ short with cursor := short.cursor.skip } : Reader).Inside tail outer index names
      { long with cursor := long.cursor.skip } :=
  ⟨inside.cursor.skip left, inside.level, inside.frames, inside.nextIndex, inside.names⟩

/-- A reader at the end of its pattern has closed all groups. -/
theorem frames_eq_nil_of_finish {reader : Reader} {ast : Ast} (success : reader.finish = .ok ast) :
    reader.frames = [] ∧ reader.level.toAst reader.cursor.position = ast := by
  simp only [finish] at success
  split at success
  · rename_i frames
    cases success
    exact ⟨frames, rfl⟩
  · cases success

/-- A reader with nothing left and no open group gives its level. -/
theorem run_of_ended {reader : Reader} (ended : reader.cursor.skip.rest = [])
    (frames : reader.frames = []) (bound : Nat) :
    ∃ position, reader.run octalAllowed bound = .ok (reader.level.toAst position) := by
  cases bound with
  | zero => exact ⟨reader.cursor.position, by simp only [run, finish, frames]⟩
  | succ bound =>
    have unseen : reader.cursor.skip.peek? = none := peek?_eq_none_iff.2 ended
    exact ⟨reader.cursor.skip.position, by simp only [run, unseen, finish, frames]⟩

/-- A reader with nothing left has closed all groups if it gives a tree. -/
theorem frames_eq_nil_of_ended {reader : Reader} {bound : Nat} {ast : Ast}
    (ended : reader.cursor.skip.rest = []) (success : reader.run octalAllowed bound = .ok ast) :
    reader.frames = [] ∧ ∃ position, reader.level.toAst position = ast := by
  cases bound with
  | zero =>
    obtain ⟨frames, tree⟩ := frames_eq_nil_of_finish success
    exact ⟨frames, _, tree⟩
  | succ bound =>
    have unseen : reader.cursor.skip.peek? = none := peek?_eq_none_iff.2 ended
    simp only [run, unseen] at success
    obtain ⟨frames, tree⟩ := frames_eq_nil_of_finish success
    exact ⟨frames, _, tree⟩

/-- A reader that gives a tree without groups has captured nothing. -/
theorem isPlain_of_run {reader : Reader} {bound : Nat} {ast : Ast}
    (success : reader.run octalAllowed bound = .ok ast) (plain : ast.groups = []) :
    reader.IsPlain := by
  have ended {reader : Reader} (success : reader.finish = .ok ast) : reader.IsPlain := by
    obtain ⟨frames, tree⟩ := frames_eq_nil_of_finish success
    refine ⟨?_, by simp only [frames, List.not_mem_nil, false_imp_iff, implies_true]⟩
    rw [← Level.groups_toAst, tree, plain]
  induction bound generalizing reader with
  | zero => exact ended success
  | succ bound ih =>
    simp only [run] at success
    split at success
    · have last := ended success
      exact ⟨last.level, last.frames⟩
    · obtain ⟨result, stepped, success⟩ := bind_eq_ok_iff.1 success
      have before := isPlain_of_step stepped (ih success)
      exact ⟨before.level, before.frames⟩

/-- What is read alone to its end is read inside a group up to the tail, which a comment may have
hidden. -/
structure EndsInside (octalAllowed : Bool) (short : Reader) (ast : Ast) (hidden : Bool) :
    Prop where
  hides : hidden = true → ∀ tail index names long, Closes hidden tail →
    short.Inside tail [] index names long → ∀ bound, long.cursor.rest.length ≤ bound →
    ∃ twin, long.run octalAllowed bound = .ok twin ∧ twin.bare = ast.bare
  reaches : hidden = false → ∀ tail outer index names long, Closes hidden tail →
    short.Inside tail outer index names long →
    ∃ result, LeadsTo octalAllowed long result ∧ result.cursor.skip.rest = tail ∧
      (∀ position, (result.level.toAst position).bare = ast.bare) ∧ result.frames = outer ∧
      result.nextIndex = index ∧ result.names = names

/-- Inside outer groups, a reader with no group of its own has only those open. -/
theorem Inside.frames_eq (inside : short.Inside tail outer index names long)
    (none : short.frames = []) : long.frames = outer := by
  obtain ⟨inner, frames, same⟩ := inside.frames
  rw [none, List.map_nil, List.map_eq_nil_iff] at same
  rw [frames, same, List.nil_append]

theorem endsInside_of_ended {ast : Ast} (ended : short.cursor.skip.rest = [])
    (none : short.frames = []) {position : Position}
    (tree : short.level.toAst position = ast) :
    ∃ hidden, EndsInside octalAllowed short ast hidden := by
  obtain ⟨hidden, _, skips⟩ := exists_skip_extends short.cursor
  refine ⟨hidden, fun hides => ?_, fun shows => ?_⟩
  · intro tail index names long closes inside bound enough
    have rest := (skips tail long.cursor closes inside.cursor).rest
    rw [ended, remaining, if_pos hides, List.append_nil] at rest
    obtain ⟨last, success⟩ := run_of_ended rest (inside.frames_eq none) bound
    exact ⟨_, success, by rw [Level.toAst_of_bare inside.level position, tree]⟩
  · intro tail outer index names long closes inside
    have rest := (skips tail long.cursor closes inside.cursor).rest
    rw [ended, remaining, shows] at rest
    exact ⟨long, .refl _ _, rest,
      fun last => by rw [Level.toAst_of_bare inside.level position, tree],
      inside.frames_eq none, inside.nextIndex, inside.names⟩

theorem Inside.leadsTo {c : Char} (seen : short.cursor.skip.peek? = some c)
    (inside : short.Inside tail outer index names long)
    (shorter : result.cursor.rest <:+ short.cursor.skip.rest.tail)
    {other : Reader}
    (stepped : step octalAllowed c { long with cursor := long.cursor.skip } = .ok other)
    (stops : other.cursor.rest.length ≤ result.cursor.rest.length + tail.length) :
    LeadsTo octalAllowed long other := by
  have left := rest_ne_nil_of_peek? seen
  refine .of_step ((inside.cursor.skip left).peek?_of_some seen) stepped ?_
  have fewer := (shorter.trans (tail_suffix_tail (skip_suffix short.cursor))).length_le
  have some := List.length_pos_iff.2 (ne_nil_of_suffix (skip_suffix short.cursor) left)
  rw [List.length_tail] at fewer
  rw [inside.cursor.rest, List.length_append]
  omega

/-- A pattern that captures nothing reads inside a group as it does alone. -/
theorem endsInside_of_run {bound : Nat} {ast : Ast} (enough : short.cursor.rest.length ≤ bound)
    (success : short.run octalAllowed bound = .ok ast) (plain : ast.groups = []) :
    ∃ hidden, EndsInside octalAllowed short ast hidden := by
  induction bound generalizing short with
  | zero =>
    have empty := List.length_eq_zero_iff.1 (Nat.le_zero.1 enough)
    obtain ⟨frames, tree⟩ := frames_eq_nil_of_finish success
    refine endsInside_of_ended ?_ frames tree
    have suffix := skip_suffix short.cursor
    rw [empty] at suffix
    exact List.suffix_nil.1 suffix
  | succ bound ih =>
    simp only [run] at success
    split at success
    · rename_i unseen
      obtain ⟨frames, tree⟩ := frames_eq_nil_of_finish success
      exact endsInside_of_ended (peek?_eq_none_iff.1 unseen) frames tree
    · rename_i c seen
      obtain ⟨result, stepped, success⟩ := bind_eq_ok_iff.1 success
      have left := rest_ne_nil_of_peek? seen
      obtain ⟨shorter, hidden, empty, again⟩ :=
        stepsInside_of_step seen stepped (isPlain_of_run success plain)
      cases hidden with
      | true =>
        -- A comment at the end of the last part hides the tail.
        have nothing (cursor : Cursor) (ended : cursor.rest = []) : cursor.skip.rest = [] :=
          List.suffix_nil.1 (ended ▸ skip_suffix cursor)
        obtain ⟨frames, position, tree⟩ := frames_eq_nil_of_ended (nothing _ (empty rfl)) success
        refine ⟨true, fun _ tail index names long closes inside bound enough => ?_,
          fun impossible => Bool.noConfusion impossible⟩
        obtain ⟨other, steps, next⟩ := again tail [] index names _ closes (inside.skip left)
        have rest : other.cursor.rest = [] := by
          rw [next.cursor.rest, empty rfl]
          rfl
        obtain ⟨fewer, _, same⟩ := inside.leadsTo seen shorter steps (by simp [rest]) bound enough
        obtain ⟨last, success⟩ :=
          run_of_ended (nothing _ rest) (next.frames_eq frames) fewer
        exact ⟨_, same.trans success, by rw [Level.toAst_of_bare next.level position, tree]⟩
      | false =>
        have fewer : result.cursor.rest.length ≤ bound := by
          have less := (shorter.trans (tail_suffix_tail (skip_suffix short.cursor))).length_le
          rw [List.length_tail] at less
          omega
        obtain ⟨hidden, hides, reaches⟩ := ih fewer success
        -- The step itself leaves the tail, whatever hides it later.
        have moves {tail : List Char} {outer : List Frame} {index : Nat}
            {names : List CaptureName} {long : Reader} (head : tail.head? = some ')')
            (inside : short.Inside tail outer index names long) :
            ∃ other, result.Inside tail outer index names other ∧
              LeadsTo octalAllowed long other := by
          obtain ⟨other, steps, next⟩ :=
            again tail outer index names _
              ⟨head, fun impossible => Bool.noConfusion impossible⟩ (inside.skip left)
          refine ⟨other, next, inside.leadsTo seen shorter steps ?_⟩
          rw [next.cursor.rest, List.length_append]
          exact Nat.le_refl _
        refine ⟨hidden, fun hide tail index names long closes inside bound enough => ?_,
          fun shows tail outer index names long closes inside => ?_⟩
        · obtain ⟨other, next, leads⟩ := moves closes.head inside
          obtain ⟨fewer, room, same⟩ := leads bound enough
          obtain ⟨twin, success, alike⟩ :=
            hides hide tail index names other closes next fewer room
          exact ⟨twin, same.trans success, alike⟩
        · obtain ⟨other, next, leads⟩ := moves closes.head inside
          obtain ⟨last, rest, ends⟩ := reaches shows tail outer index names other closes next
          exact ⟨last, leads.trans rest, ends⟩

end Reader

end SchemaMatch.Syntax
