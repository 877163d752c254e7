import SchemaMatch.Proofs.Syntax.Octal
import SchemaMatch.Proofs.Syntax.Print.Group
import SchemaMatch.Proofs.Syntax.Print.Level
import SchemaMatch.Proofs.Syntax.Print.Repetition
import SchemaMatch.Proofs.Syntax.Tail.Reader
import SchemaMatch.Proofs.Syntax.Terse

/-!
# Printed patterns

A pattern that skips no blanks is found again where it is printed without its captures. The
invariant is `Reader.Twin`: one reader has read the pattern, the other one what it prints as. One
step keeps it, and so does reading to the end.
-/

namespace SchemaMatch.Syntax

open Cursor

namespace Reader

/-- Of two readers, the second has read what the first one has, but for places and captures. -/
structure Twin (short long : Reader) : Prop where
  level : long.level.bare = short.level.strip.bare
  frames : long.frames.map Frame.bare = short.frames.map fun frame => frame.strip.bare

variable {short long result : Reader}

theorem Twin.push (twin : short.Twin long) {item other : Ast} {cursor far : Cursor}
    (alike : other.bare = item.stripCaptures.bare) :
    (short.push item cursor).Twin (long.push other far) where
  level := by
    rw [Reader.push, Reader.push, Level.strip_push]
    exact Level.push_of_bare twin.level alike
  frames := twin.frames

/-- A step of a reader is taken again where it is printed. -/
structure Resteps (c : Char) (short result : Reader) : Prop where
  terse : result.IsTerse
  again : ∃ spelled, result.written = short.written ++ spelled ∧ (∃ more, spelled = c :: more) ∧
    (∀ text, Follows result.cursor.rest text → Follows short.cursor.rest (spelled ++ text)) ∧
    ∀ text long, Follows result.cursor.rest text → long.cursor.Before (spelled ++ text) →
      short.Twin long →
      ∃ other, long.step false c = .ok other ∧ other.cursor.Before text ∧ result.Twin other

theorem Resteps.of_item {ι α : Type} {c : Char}
    {read : ι → Cursor → Except SyntaxError (α × Cursor)} {bare : α → α} {print : α → List Char}
    {found : α} {last : Cursor} (toAst : α → Ast) (terse : short.IsTerse)
    (begins : ∃ more, print found = c :: more)
    (follows : ∀ text, Follows last.rest text → Follows short.cursor.rest (print found ++ text))
    (rereads : Rereads read bare print found last)
    (places : ∀ other, bare other = bare found → (toAst other).bare = (toAst found).bare)
    (plain : (toAst found).stripCaptures = toAst found)
    (prints : (toAst found).print = print found) (start : Reader → ι)
    (steps : ∀ long : Reader, long.step false c =
      read (start long) long.cursor >>= fun next => .ok (long.push (toAst next.1) next.2)) :
    Resteps c short (short.push (toAst found) last) := by
  refine ⟨⟨rereads.terse, terse.frames⟩, print found, ?_, begins, follows,
    fun text long alike before twin => ?_⟩
  · rw [written_push, plain, prints]
  · obtain ⟨other, stop, success, same, stops⟩ :=
      rereads.again text long.cursor (start long) alike before
    refine ⟨long.push (toAst other) stop, ?_, stops, twin.push ?_⟩
    · rw [steps, success]
      rfl
    · rw [plain, places other same]

theorem Resteps.of_repeated {c : Char} {items : List Ast} {last : Cursor}
    {read : List Ast → Cursor → Except SyntaxError (List Ast × Cursor)} (terse : short.IsTerse)
    (seen : short.cursor.peek? = some c)
    (applies : Repetition.Applies read short.level.reversed short.cursor items last)
    (steps : ∀ long : Reader, long.step false c =
      long.repeated <$> read long.level.reversed long.cursor) :
    Resteps c short (short.repeated (items, last)) := by
  obtain ⟨still, sub, before, kind, greedy, operand, rfl, follows, ⟨more, begins⟩, again⟩ := applies
  refine ⟨⟨still, terse.frames⟩, Repetition.printed kind greedy, ?_, ⟨more, begins c seen⟩, follows,
    fun text long alike begins twin => ?_⟩
  · exact written_repeated (Repetition.eq_cons_of_operand operand) kind greedy last
  · have items : long.level.reversed.map Ast.bare =
        (short.level.reversed.map Ast.stripCaptures).map Ast.bare :=
      congrArg Level.reversed twin.level
    obtain ⟨other, rest, found, same, rests⟩ :=
      Repetition.operand_of_bare long.cursor items (Ast.operand_stripCaptures operand)
    obtain ⟨stop, success, stops⟩ := again text long.cursor _ other rest alike begins found
    refine ⟨long.repeated (Repetition.apply other kind greedy stop :: rest, stop), ?_, stops, ?_,
      twin.frames⟩
    · rw [steps, success]
      rfl
    · have earlier := congrArg Level.earlier twin.level
      simp only [Level.bare, Level.strip] at earlier
      simp only [Reader.repeated, Level.bare, Level.strip, List.map_cons, Repetition.apply,
        Ast.stripCaptures_repetition, Ast.bare, same, rests, earlier]

theorem resteps_of_opening (terse : short.IsTerse) (seen : short.cursor.peek? = some '(')
    (success : short.opening = .ok result) (switches : result.SwitchesTerse) :
    Resteps '(' short result := by
  obtain ⟨others, begins⟩ := exists_rest_of_peek? seen
  obtain ⟨⟨found, last⟩, opened, success⟩ := bind_eq_ok_iff.1 success
  obtain ⟨still, again⟩ := Opening.parse_rereads terse.cursor opened
  obtain ⟨more, print⟩ := found.strip.exists_print_eq
  have follows (text : List Char) (_ : Follows last.rest text) :
      Follows short.cursor.rest (found.strip.print ++ text) := by
    rw [begins, print]
    exact .apart others _ rfl (by decide)
  cases found with
  | flags span list =>
    cases success
    have quiet : (list.state? .ignoreWhitespace).getD false = false := by
      refine FlagList.getD_of_isTerse (switches list ?_)
      rw [gather_push]
      exact List.mem_append_right _ List.mem_cons_self
    refine ⟨⟨(congrArg _ still).trans quiet, terse.frames⟩, _, written_push .., ⟨more, print⟩, follows,
      fun text long alike before twin => ?_⟩
    obtain ⟨other, stop, opens, same, stops⟩ :=
      again text long.cursor (long.nextIndex, long.names) alike before
    cases other with
    | group place kind => cases same
    | flags place other =>
      have same : other.bare = list.bare := (Opening.flags.inj same).2
      have verbose : (other.state? .ignoreWhitespace).getD stop.verbose = false := by
        rw [← FlagList.state?_bare, same, FlagList.state?_bare, stops.terse, quiet]
      refine ⟨long.push (.flags place other)
        { stop with verbose := (other.state? .ignoreWhitespace).getD stop.verbose }, ?_,
        ⟨stops.rest, verbose⟩, twin.push ?_⟩
      · simp only [step, opening, opens, ok_bind]
      · have plain : (Ast.flags span list).stripCaptures = .flags span list := rfl
        simp only [plain, Ast.bare, same]
  | group span kind =>
    cases success
    have quiet : kind.verbose false = false := by
      refine GroupKind.verbose_of_isTerse fun list member => switches list ?_
      rw [gather_open]
      exact List.mem_append_right _ member
    refine ⟨⟨(congrArg kind.verbose still).trans quiet, ?_⟩, _, written_open .., ⟨more, print⟩, follows,
      fun text long alike before twin => ?_⟩
    · intro frame member
      rcases List.mem_cons.1 member with rfl | member
      · exact still
      · exact terse.frames frame member
    · obtain ⟨other, stop, opens, same, stops⟩ :=
        again text long.cursor (long.nextIndex, long.names) alike before
      cases other with
      | flags place other => cases same
      | group place other =>
        have same : other.bare = (kind.strip span).bare := (Opening.group.inj same).2
        obtain ⟨list, rfl⟩ : ∃ list, other = .nonCapturing list := by
          cases kind <;> exact GroupKind.exists_of_bare same
        have verbose : (GroupKind.nonCapturing list).verbose stop.verbose = false := by
          rw [← GroupKind.verbose_bare, same, GroupKind.verbose_bare, GroupKind.verbose_strip,
            stops.terse, quiet]
        let frame : Frame := ⟨long.level, place, .nonCapturing list, stop.verbose⟩
        refine ⟨⟨{ stop with verbose := frame.kind.verbose stop.verbose }, Level.starting stop,
          frame :: long.frames, long.nextIndex, long.names⟩, ?_, ⟨stops.rest, verbose⟩, rfl, ?_⟩
        · simp only [step, opening, opens, ok_bind, frame]
        · simp only [List.map_cons, twin.frames, frame, Frame.bare, Frame.strip, twin.level, same,
            stops.terse, still]

theorem resteps_of_closing (terse : short.IsTerse) (seen : short.cursor.peek? = some ')')
    (success : short.closing = .ok result) : Resteps ')' short result := by
  obtain ⟨others, begins⟩ := exists_rest_of_peek? seen
  simp only [closing] at success
  split at success
  · cases success
  · rename_i frame frames opened
    cases success
    have outside : frame.verbose = false :=
      terse.frames frame (opened ▸ List.mem_cons_self)
    refine ⟨⟨outside, fun other member =>
      terse.frames other (opened ▸ List.mem_cons_of_mem frame member)⟩, [')'],
      written_close opened .., ⟨[], rfl⟩, fun text _ => ?_, fun text long alike before twin => ?_⟩
    · rw [begins]
      exact .apart others text rfl (by decide)
    · have inner := twin.frames
      rw [opened, List.map_cons] at inner
      obtain ⟨other, rest, split, first, same⟩ := List.map_eq_cons_iff.1 inner
      simp only [Frame.bare, Frame.strip, Frame.mk.injEq] at first
      obtain ⟨level, _, kind, verbose⟩ := first
      let far : Cursor := { long.cursor.advance with verbose := other.verbose }
      let group := Ast.group (far.since other.span.start) other.kind
        (long.level.toAst long.cursor.position)
      refine ⟨{ long with cursor := far, level := other.outer.push group, frames := rest }, ?_,
        ⟨before.advance.rest, verbose.trans outside⟩, ?_, same⟩
      · simp only [step, closing, split, far, group]
      · rw [Level.strip_push]
        refine Level.push_of_bare level ?_
        simp only [group, Ast.stripCaptures_group, Ast.bare, kind, ← Level.toAst_strip,
          GroupKind.strip_bare frame.kind _ frame.span,
          Level.toAst_of_bare twin.level short.cursor.position]

theorem resteps_of_step {c : Char} (terse : short.IsTerse) (seen : short.cursor.peek? = some c)
    (success : short.step false c = .ok result) (switches : result.SwitchesTerse) :
    Resteps c short result := by
  simp only [step] at success
  split at success
  · exact resteps_of_opening terse seen success switches
  · exact resteps_of_closing terse seen success
  · cases success
    obtain ⟨others, begins⟩ := exists_rest_of_peek? seen
    refine ⟨⟨(verbose_advance _).trans terse.cursor, terse.frames⟩, ['|'], written_nextBranch ..,
      ⟨[], rfl⟩, fun text alike => ?_, fun text long alike before twin => ?_⟩
    · rw [begins]
      exact .apart others text rfl (by decide)
    · refine ⟨_, rfl, before.advance, ?_, twin.frames⟩
      rw [Level.strip_nextBranch]
      exact Level.nextBranch_of_bare twin.level _ _
  · obtain ⟨⟨found, last⟩, closed, success⟩ := bind_eq_ok_iff.1 success
    cases success
    obtain ⟨begins, follows, rereads⟩ := Bracket.parse_rereads terse.cursor seen closed
    refine .of_item (fun (found : Bracket.Result) =>
      .bracketed found.span found.negated found.body) terse begins follows rereads
      (fun other same => ?_) rfl rfl (fun _ => ()) (fun long => rfl)
    simp only [Bracket.Result.bare, Bracket.Result.mk.injEq] at same
    simp only [Ast.bare, same]
  · obtain ⟨⟨items, last⟩, parsed, rfl⟩ := map_eq_ok_iff.1 success
    exact .of_repeated terse seen (Repetition.parse_rereads terse.cursor seen rfl parsed)
      fun long => rfl
  · obtain ⟨⟨items, last⟩, parsed, rfl⟩ := map_eq_ok_iff.1 success
    exact .of_repeated terse seen (Repetition.parse_rereads terse.cursor seen rfl parsed)
      fun long => rfl
  · obtain ⟨⟨items, last⟩, parsed, rfl⟩ := map_eq_ok_iff.1 success
    exact .of_repeated terse seen (Repetition.parse_rereads terse.cursor seen rfl parsed)
      fun long => rfl
  · obtain ⟨⟨items, last⟩, parsed, rfl⟩ := map_eq_ok_iff.1 success
    exact .of_repeated terse seen (Repetition.parseCounted_rereads terse.cursor seen parsed)
      fun long => rfl
  · obtain ⟨⟨found, last⟩, parsed, success⟩ := bind_eq_ok_iff.1 success
    cases success
    obtain ⟨begins, follows, rereads⟩ := Primitive.parse_rereads terse.cursor seen parsed
    refine .of_item Primitive.toAst terse begins follows rereads (fun other same => ?_) ?_ rfl
      (fun _ => ()) (fun long => ?_)
    · rw [← Primitive.toAst_bare, same, Primitive.toAst_bare]
    · cases found <;> rfl
    · simp only [step]

/-- What is left of a pattern is read again where it is printed, up to the end or to a parenthesis
that closes a group around it. -/
structure Reruns (short : Reader) (ast : Ast) (spelled : List Char) : Prop where
  print : ast.stripCaptures.print = short.written ++ spelled
  follows : ∀ text, Follows [] text → Follows short.cursor.rest (spelled ++ text)
  again : ∀ octalAllowed text long, Follows [] text → long.cursor.Before (spelled ++ text) →
    short.Twin long →
    ∃ last, LeadsTo octalAllowed long last ∧ last.cursor.Before text ∧ last.frames = [] ∧
      ∀ position, (last.level.toAst position).bare = ast.stripCaptures.bare

theorem reruns_of_ended {ast : Ast} (ended : short.cursor.rest = [])
    (success : short.finish = .ok ast) : Reruns short ast [] := by
  obtain ⟨none, tree⟩ := frames_eq_nil_of_finish success
  refine ⟨?_, fun text closed => ?_, fun octalAllowed text long _ before twin => ?_⟩
  · rw [← tree, ← Level.toAst_strip, Level.print_toAst, written, none, List.append_nil]
    rfl
  · rw [ended]
    exact closed
  · have frames : long.frames = [] := by
      have same := twin.frames
      rwa [none, List.map_nil, List.map_eq_nil_iff] at same
    refine ⟨long, .refl _ _, before, frames, fun position => ?_⟩
    rw [← tree, ← Level.toAst_strip, Level.toAst_of_bare twin.level short.cursor.position]

theorem Resteps.reruns {c : Char} {ast : Ast} {rest : List Char} (steps : Resteps c short result)
    (reruns : Reruns result ast rest) : ∃ spelled, Reruns short ast spelled := by
  obtain ⟨_, spelled, written, ⟨more, begins⟩, follows, again⟩ := steps
  refine ⟨spelled ++ rest, ?_, fun text closed => ?_,
    fun octalAllowed text long closed before twin => ?_⟩
  · rw [reruns.print, written, List.append_assoc]
  · rw [List.append_assoc]
    exact follows _ (reruns.follows text closed)
  · rw [List.append_assoc] at before
    obtain ⟨other, stepped, stops, same⟩ :=
      again _ long (reruns.follows text closed) before twin
    obtain ⟨last, leads, ends⟩ := reruns.again octalAllowed text other closed stops same
    have skipped : ({ long with cursor := long.cursor.skip } : Reader) = long := by
      rw [before.skip]
    have seen : long.cursor.skip.peek? = some c := by
      rw [before.skip, before.peek?, begins]
      rfl
    have steps : step octalAllowed c { long with cursor := long.cursor.skip } = .ok other := by
      rw [skipped]
      exact step_of_unoctal octalAllowed stepped fun impossible => Bool.noConfusion impossible
    have shorter : other.cursor.rest.length < long.cursor.rest.length := by
      simp only [stops.rest, before.rest, begins, List.cons_append, List.length_cons,
        List.length_append]
      omega
    exact ⟨last, (LeadsTo.of_step seen steps shorter).trans leads, ends⟩

/-- A pattern that skips no blanks is read again where it is printed without its captures. -/
theorem reruns_of_run {bound : Nat} {ast : Ast} (terse : short.IsTerse)
    (enough : short.cursor.rest.length ≤ bound) (success : short.run false bound = .ok ast)
    (switches : ast.isTerse = true) : ∃ spelled, Reruns short ast spelled := by
  induction bound generalizing short with
  | zero =>
    have empty := List.length_eq_zero_iff.1 (Nat.le_zero.1 enough)
    exact ⟨[], reruns_of_ended empty success⟩
  | succ bound ih =>
    simp only [run, skip_of_terse terse.cursor] at success
    split at success
    · rename_i unseen
      exact ⟨[], reruns_of_ended (peek?_eq_none_iff.1 unseen) success⟩
    · rename_i c seen
      obtain ⟨result, stepped, success⟩ := bind_eq_ok_iff.1 success
      have steps :=
        resteps_of_step terse seen stepped (switchesTerse_of_run success switches)
      have fewer := (step_suffix seen stepped).length_le
      rw [List.length_tail] at fewer
      obtain ⟨rest, reruns⟩ := ih steps.terse (by omega) success
      exact steps.reruns reruns

end Reader

end SchemaMatch.Syntax
