import SchemaMatch.Proofs.Success
import SchemaMatch.Syntax.Parser

/-!
# What trees are made of

Something may be gathered from all parts of a tree, in reading order. What a reader has read stays
in what it goes on to read, so what is gathered from a reader comes first in what is gathered from
the tree in the end.
-/

namespace SchemaMatch.Syntax

namespace Repetition

theorem eq_cons_of_operand {reversed before : List Ast} {sub : Ast} {cursor : Cursor}
    (success : operand reversed cursor = .ok (sub, before)) : reversed = sub :: before := by
  match reversed with
  | [] => cases success
  | first :: rest =>
    simp only [operand] at success
    split at success
    · cases success
      rfl
    · cases success

/-- Some items of which the last one has been repeated. -/
inductive Applied (reversed : List Ast) (found : List Ast × Cursor) : Prop
  | intro (sub : Ast) (before : List Ast) (kind : RepetitionKind) (greedy : Bool)
      (items : reversed = sub :: before)
      (repeated : found.1 = apply sub kind greedy found.2 :: before)

theorem applied_of_parse {kind : RepetitionKind} {reversed : List Ast} {cursor : Cursor}
    {found : List Ast × Cursor} (success : parse kind reversed cursor = .ok found) :
    Applied reversed found := by
  obtain ⟨⟨sub, before⟩, applies, _⟩ := bind_eq_ok_iff.1 success
  simp only [parse, applies, ok_bind, Except.ok.injEq] at success
  exact ⟨sub, before, kind, _, eq_cons_of_operand applies, by rw [← success]⟩

theorem applied_of_parseCounted {reversed : List Ast} {cursor : Cursor}
    {found : List Ast × Cursor} (success : parseCounted reversed cursor = .ok found) :
    Applied reversed found := by
  simp only [parseCounted, refuse, bind_eq_ok_iff, unless_eq_ok_iff, Prod.exists] at success
  obtain ⟨sub, before, applies, _, _, range, close, _, _, _, equal⟩ := success
  exact ⟨sub, before, .counted range, _, eq_cons_of_operand applies,
    by rw [← Except.ok.inj equal]⟩

end Repetition

variable {α : Type} {parts : Ast → List α} {ofKind : GroupKind → List α}

/-- What is gathered from trees one after another is gathered from each of them. -/
structure Gathers (parts : Ast → List α) : Prop where
  empty : ∀ span, parts (.empty span) = []
  alternation : ∀ span branches, parts (.alternation span branches) = branches.flatMap parts
  concat : ∀ span items, parts (.concat span items) = items.flatMap parts

/-- What is gathered from a group is gathered from its opening and from its inside. -/
structure GathersInside (parts : Ast → List α) (ofKind : GroupKind → List α) : Prop
    extends Gathers parts where
  repetition : ∀ span kind greedy sub, parts (.repetition span kind greedy sub) = parts sub
  group : ∀ span kind sub, parts (.group span kind sub) = ofKind kind ++ parts sub

namespace Level

/-- What is gathered from a level: from the branches before the one that is read, and from that
one. -/
def gather (parts : Ast → List α) (level : Level) : List α :=
  (((level.earlier.map Prod.snd).getD []).reverse.flatMap parts) ++
    level.reversed.reverse.flatMap parts

theorem gather_branch (gathers : Gathers parts) (level : Level) (stop : Position) :
    parts (level.branch stop) = level.reversed.reverse.flatMap parts := by
  match level with
  | ⟨_, [], _⟩ => exact gathers.empty _
  | ⟨_, [_], _⟩ => simp [branch]
  | ⟨_, _ :: _ :: _, _⟩ => exact gathers.concat _ _

theorem gather_toAst (gathers : Gathers parts) (level : Level) (stop : Position) :
    parts (level.toAst stop) = level.gather parts := by
  have last := gather_branch gathers level stop
  match level, last with
  | ⟨_, _, none⟩, last => exact last
  | ⟨_, _, some (_, branches)⟩, last =>
    simp only [toAst, gathers.alternation, List.reverse_cons, List.flatMap_append,
      List.flatMap_cons, List.flatMap_nil, List.append_nil, last, gather, Option.map_some,
      Option.getD_some]

@[simp] theorem gather_push (parts : Ast → List α) (level : Level) (item : Ast) :
    (level.push item).gather parts = level.gather parts ++ parts item := by
  simp [gather, push]

theorem gather_nextBranch (gathers : Gathers parts) (level : Level) (bar : Cursor) :
    (level.nextBranch bar).gather parts = level.gather parts := by
  have last := gather_branch gathers level bar.position
  match level, last with
  | ⟨_, _, none⟩, last => simp [gather, nextBranch, last]
  | ⟨_, _, some (_, branches)⟩, last => simp [gather, nextBranch, last]

end Level

namespace Reader

variable {octalAllowed : Bool} {reader result : Reader}

/-- What is gathered from all that has been read, the open groups included. -/
def gather (parts : Ast → List α) (ofKind : GroupKind → List α) (reader : Reader) : List α :=
  reader.frames.reverse.flatMap (fun frame => frame.outer.gather parts ++ ofKind frame.kind) ++
    reader.level.gather parts

theorem gather_push (parts : Ast → List α) (ofKind : GroupKind → List α) (reader : Reader)
    (item : Ast) (cursor : Cursor) :
    (reader.push item cursor).gather parts ofKind = reader.gather parts ofKind ++ parts item := by
  simp only [gather, push, Level.gather_push, List.append_assoc]

theorem gather_repeated (gathers : GathersInside parts ofKind) {found : List Ast × Cursor}
    (applied : Repetition.Applied reader.level.reversed found) :
    (reader.repeated found).gather parts ofKind = reader.gather parts ofKind := by
  obtain ⟨sub, before, kind, greedy, items, result⟩ := applied
  simp only [repeated, gather, Level.gather, items, result, Repetition.apply, List.reverse_cons,
    List.flatMap_append, List.flatMap_cons, List.flatMap_nil, gathers.repetition]

theorem gather_open (parts : Ast → List α) (ofKind : GroupKind → List α) (reader : Reader)
    (span : Span) (kind : GroupKind) (verbose : Bool) (cursor start : Cursor) (nextIndex : Nat)
    (names : List CaptureName) :
    gather parts ofKind ⟨cursor, Level.starting start,
      ⟨reader.level, span, kind, verbose⟩ :: reader.frames, nextIndex, names⟩ =
        reader.gather parts ofKind ++ ofKind kind := by
  have empty : (Level.starting start).gather parts = [] := rfl
  simp only [gather, empty, List.reverse_cons, List.flatMap_append, List.flatMap_cons,
    List.flatMap_nil, List.append_nil, List.append_assoc]

theorem gather_closing (gathers : GathersInside parts ofKind)
    (success : reader.closing = .ok result) :
    result.gather parts ofKind = reader.gather parts ofKind := by
  simp only [closing] at success
  split at success
  · cases success
  · rename_i frame frames opened
    cases success
    simp only [gather, opened, Level.gather_push, gathers.group,
      Level.gather_toAst gathers.toGathers, List.reverse_cons, List.flatMap_append,
      List.flatMap_cons, List.flatMap_nil, List.append_nil, List.append_assoc]

theorem gather_step (gathers : GathersInside parts ofKind) {c : Char}
    (success : reader.step octalAllowed c = .ok result) :
    reader.gather parts ofKind <+: result.gather parts ofKind := by
  have stays {other : Reader}
      (equal : other.gather parts ofKind = reader.gather parts ofKind) :
      reader.gather parts ofKind <+: other.gather parts ofKind :=
    ⟨[], by rw [List.append_nil, equal]⟩
  have pushed (item : Ast) (cursor : Cursor) :
      reader.gather parts ofKind <+: (reader.push item cursor).gather parts ofKind :=
    ⟨_, (gather_push ..).symm⟩
  have repeats {found : List Ast × Cursor}
      (applied : Repetition.Applied reader.level.reversed found) :
      reader.gather parts ofKind <+: (reader.repeated found).gather parts ofKind :=
    stays (gather_repeated gathers applied)
  simp only [step] at success
  split at success
  · simp only [opening] at success
    obtain ⟨⟨found, cursor⟩, _, success⟩ := bind_eq_ok_iff.1 success
    cases found with
    | flags span list =>
      cases success
      exact pushed _ _
    | group span kind =>
      cases success
      exact ⟨_, (gather_open ..).symm⟩
  · exact stays (gather_closing gathers success)
  · cases success
    refine stays ?_
    simp only [gather, Level.gather_nextBranch gathers.toGathers]
  · obtain ⟨_, _, success⟩ := bind_eq_ok_iff.1 success
    cases success
    exact pushed _ _
  · obtain ⟨found, parsed, rfl⟩ := map_eq_ok_iff.1 success
    exact repeats (Repetition.applied_of_parse parsed)
  · obtain ⟨found, parsed, rfl⟩ := map_eq_ok_iff.1 success
    exact repeats (Repetition.applied_of_parse parsed)
  · obtain ⟨found, parsed, rfl⟩ := map_eq_ok_iff.1 success
    exact repeats (Repetition.applied_of_parse parsed)
  · obtain ⟨found, parsed, rfl⟩ := map_eq_ok_iff.1 success
    exact repeats (Repetition.applied_of_parseCounted parsed)
  · obtain ⟨_, _, success⟩ := bind_eq_ok_iff.1 success
    cases success
    exact pushed _ _

/-- What is gathered from a reader at the end of its pattern is gathered from its tree. -/
theorem gather_finish (gathers : GathersInside parts ofKind) {ast : Ast}
    (success : reader.finish = .ok ast) : reader.gather parts ofKind = parts ast := by
  simp only [finish] at success
  split at success
  · rename_i none
    cases success
    rw [gather, none, Level.gather_toAst gathers.toGathers]
    rfl
  · cases success

theorem gather_run (gathers : GathersInside parts ofKind) {bound : Nat} {ast : Ast}
    (success : reader.run octalAllowed bound = .ok ast) :
    reader.gather parts ofKind <+: parts ast := by
  induction bound generalizing reader with
  | zero => exact ⟨[], (List.append_nil _).trans (gather_finish gathers success)⟩
  | succ bound ih =>
    simp only [run] at success
    split at success
    · have same := gather_finish gathers success
      exact ⟨[], (List.append_nil _).trans same⟩
    · obtain ⟨result, stepped, success⟩ := bind_eq_ok_iff.1 success
      exact (gather_step gathers stepped).trans (ih success)

end Reader

end SchemaMatch.Syntax
