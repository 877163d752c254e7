import SchemaMatch.Proofs.Syntax.Strip

/-!
# What a reader has read, printed

A reader keeps what it has read in levels, of which the outer ones wait in frames. Printed without
captures from the outermost level to the innermost one, they are a text that grows at its end with
every step, and that is the whole pattern in the end.
-/

namespace SchemaMatch.Syntax

namespace Ast

theorem printAll_eq_flatMap (items : List Ast) : printAll items = items.flatMap print := by
  induction items with
  | nil => rfl
  | cons item rest ih => rw [printAll, ih, List.flatMap_cons]

theorem printBranches_append (branches : List Ast) (last : Ast) :
    printBranches (branches ++ [last]) =
      branches.flatMap (fun branch => branch.print ++ ['|']) ++ last.print := by
  induction branches with
  | nil => rfl
  | cons branch rest ih =>
    obtain ⟨next, others, more⟩ := List.exists_cons_of_ne_nil
      (List.append_ne_nil_of_right_ne_nil rest (List.cons_ne_nil last []))
    rw [List.cons_append, more, printBranches, ← more, ih]
    simp only [List.flatMap_cons, List.append_assoc, List.cons_append, List.nil_append]

end Ast

namespace Level

/-- The same level without captures. -/
def strip (level : Level) : Level :=
  ⟨level.start, level.reversed.map Ast.stripCaptures,
    level.earlier.map fun (start, branches) => (start, branches.map Ast.stripCaptures)⟩

theorem branch_strip (level : Level) (stop : Position) :
    level.strip.branch stop = (level.branch stop).stripCaptures := by
  match level with
  | ⟨_, [], _⟩ => rfl
  | ⟨_, [_], _⟩ => rfl
  | ⟨_, _ :: _ :: _, _⟩ =>
    simp only [branch, Ast.stripCaptures_concat, List.map_reverse]
    rfl

theorem toAst_strip (level : Level) (stop : Position) :
    level.strip.toAst stop = (level.toAst stop).stripCaptures := by
  have last := branch_strip level stop
  match level, last with
  | ⟨_, _, none⟩, last => exact last
  | ⟨_, _, some (_, branches)⟩, last =>
    simp only [toAst, Ast.stripCaptures_alternation, List.map_reverse, List.map_cons, ← last]
    rfl

@[simp] theorem strip_push (level : Level) (item : Ast) :
    (level.push item).strip = level.strip.push item.stripCaptures := rfl

@[simp] theorem strip_nextBranch (level : Level) (bar : Cursor) :
    (level.nextBranch bar).strip = level.strip.nextBranch bar := by
  have last := branch_strip level bar.position
  match level, last with
  | ⟨_, _, none⟩, last =>
    simp only [nextBranch, last]
    rfl
  | ⟨_, _, some (_, branches)⟩, last =>
    simp only [nextBranch, last]
    rfl

/-- What has been read of a level, as it is written. -/
def print (level : Level) : List Char :=
  ((level.earlier.map Prod.snd).getD []).reverse.flatMap (fun branch => branch.print ++ ['|']) ++
    level.reversed.reverse.flatMap Ast.print

theorem print_branch (level : Level) (stop : Position) :
    (level.branch stop).print = level.reversed.reverse.flatMap Ast.print := by
  match level with
  | ⟨_, [], _⟩ => rfl
  | ⟨_, [_], _⟩ => simp [branch]
  | ⟨_, _ :: _ :: _, _⟩ => simp only [branch, Ast.print, Ast.printAll_eq_flatMap]

theorem print_toAst (level : Level) (stop : Position) : (level.toAst stop).print = level.print := by
  have last := print_branch level stop
  match level, last with
  | ⟨_, _, none⟩, last => exact last
  | ⟨_, _, some (_, branches)⟩, last =>
    simp only [toAst, Ast.print, List.reverse_cons, Ast.printBranches_append, last]
    rfl

@[simp] theorem print_push (level : Level) (item : Ast) :
    (level.push item).print = level.print ++ item.print := by
  simp [print, push]

@[simp] theorem print_nextBranch (level : Level) (bar : Cursor) :
    (level.nextBranch bar).print = level.print ++ ['|'] := by
  have last := print_branch level bar.position
  match level, last with
  | ⟨_, _, none⟩, last => simp [print, nextBranch, last]
  | ⟨_, _, some (_, branches)⟩, last => simp [print, nextBranch, last]

end Level

/-- The same open group without a capture. -/
def Frame.strip (frame : Frame) : Frame :=
  ⟨frame.outer.strip, frame.span, frame.kind.strip frame.span, frame.verbose⟩

/-- What stands before the inside of an open group, as it is written. -/
def Frame.print (frame : Frame) : List Char := frame.outer.print ++ frame.kind.print

namespace Reader

def written (reader : Reader) : List Char :=
  reader.frames.reverse.flatMap (fun frame => frame.strip.print) ++ reader.level.strip.print

@[simp] theorem written_push (reader : Reader) (item : Ast) (cursor : Cursor) :
    (reader.push item cursor).written = reader.written ++ item.stripCaptures.print := by
  simp only [written, push, Level.strip_push, Level.print_push, List.append_assoc]

theorem written_open (reader : Reader) (span : Span) (kind : GroupKind) (verbose : Bool)
    (cursor start : Cursor) (nextIndex : Nat) (names : List CaptureName) :
    written ⟨cursor, Level.starting start, ⟨reader.level, span, kind, verbose⟩ :: reader.frames,
      nextIndex, names⟩ = reader.written ++ (kind.strip span).print := by
  have empty : (Level.starting start).strip.print = [] := rfl
  simp only [written, empty, List.reverse_cons, List.flatMap_append, List.flatMap_cons,
    List.flatMap_nil, List.append_nil, Frame.strip, Frame.print, List.append_assoc]

theorem written_close {reader : Reader} {frame : Frame} {frames : List Frame}
    (opened : reader.frames = frame :: frames) (cursor : Cursor) (span : Span) (stop : Position)
    (nextIndex : Nat) (names : List CaptureName) :
    written ⟨cursor, frame.outer.push (.group span frame.kind (reader.level.toAst stop)), frames,
      nextIndex, names⟩ = reader.written ++ [')'] := by
  simp only [written, opened, Level.strip_push, Level.print_push, Ast.stripCaptures_group,
    Ast.print, ← Level.toAst_strip, Level.print_toAst, GroupKind.print_strip _ span frame.span,
    List.reverse_cons, List.flatMap_append, List.flatMap_cons, List.flatMap_nil, List.append_nil,
    Frame.strip, Frame.print, List.append_assoc]

theorem written_nextBranch (reader : Reader) (bar cursor : Cursor) :
    written { reader with level := reader.level.nextBranch bar, cursor } =
      reader.written ++ ['|'] := by
  simp only [written, Level.strip_nextBranch, Level.print_nextBranch, List.append_assoc]

theorem written_repeated {reader : Reader} {sub : Ast} {before : List Ast}
    (items : reader.level.reversed = sub :: before) (kind : RepetitionKind) (greedy : Bool)
    (cursor : Cursor) :
    (reader.repeated (Repetition.apply sub kind greedy cursor :: before, cursor)).written =
      reader.written ++ (kind.print ++ if greedy then [] else ['?']) := by
  simp only [written, repeated, Level.strip, Level.print, items, Repetition.apply, List.map_cons,
    Ast.stripCaptures_repetition, Ast.print, List.reverse_cons, List.flatMap_append,
    List.flatMap_cons, List.flatMap_nil, List.append_nil, List.append_assoc]

end Reader

end SchemaMatch.Syntax
