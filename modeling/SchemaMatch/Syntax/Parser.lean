import SchemaMatch.Options
import SchemaMatch.Syntax.Bracket
import SchemaMatch.Syntax.Group
import SchemaMatch.Syntax.Nesting
import SchemaMatch.Syntax.Repetition

/-!
# Reading a pattern into its tree

The reader keeps the level that it is filling and, for each open group, the level around it. A step
takes one part of the pattern: an item joins the level, a bar closes a branch, a parenthesis opens
or closes a level. When nothing is left, the outermost level is the tree, and its depth is checked.
-/

namespace SchemaMatch.Syntax

/-- The inside of one group, or the whole pattern, as far as it has been read. -/
structure Level where
  /-- Where the branch starts that is being read. -/
  start : Position
  /-- The items of that branch, last first. -/
  reversed : List Ast
  /-- Where the first branch starts, and the branches before this one, last first. -/
  earlier : Option (Position × List Ast)
  deriving Repr

/-- A group that is still open. -/
structure Frame where
  outer : Level
  span : Span
  kind : GroupKind
  /-- Whether blanks are skipped again after the group. -/
  verbose : Bool
  deriving Repr

/-- What has been read of a pattern. -/
structure Reader where
  cursor : Cursor
  level : Level
  /-- The open groups, innermost first. -/
  frames : List Frame
  /-- The index of the next capturing group. -/
  nextIndex : Nat
  names : List CaptureName
  deriving Repr

namespace Level

def starting (cursor : Cursor) : Level := ⟨cursor.position, [], none⟩

/-- The branch that is being read, as far as `stop`. A single item stands for itself. -/
def branch (level : Level) (stop : Position) : Ast :=
  match level.reversed with
  | [] => .empty ⟨level.start, stop⟩
  | [item] => item
  | reversed => .concat ⟨level.start, stop⟩ reversed.reverse

def toAst (level : Level) (stop : Position) : Ast :=
  match level.earlier with
  | none => level.branch stop
  | some (start, branches) =>
    .alternation ⟨start, stop⟩ (level.branch stop :: branches).reverse

def push (level : Level) (item : Ast) : Level :=
  { level with reversed := item :: level.reversed }

def nextBranch (level : Level) (bar : Cursor) : Level :=
  let closed := level.branch bar.position
  let earlier := match level.earlier with
    | none => (level.start, [closed])
    | some (start, branches) => (start, closed :: branches)
  ⟨bar.advance.position, [], some earlier⟩

end Level

namespace Reader

/-- The start of a pattern. -/
def ofString (verbose : Bool) (pattern : String) : Reader :=
  let cursor := Cursor.ofString pattern verbose
  ⟨cursor, Level.starting cursor, [], 1, []⟩

def push (reader : Reader) (item : Ast) (cursor : Cursor) : Reader :=
  { reader with level := reader.level.push item, cursor }

def opening (reader : Reader) : Except SyntaxError Reader := do
  match ← Opening.parse reader.nextIndex reader.names reader.cursor with
  | (.flags span flags, cursor) =>
    let verbose := (flags.state? .ignoreWhitespace).getD cursor.verbose
    .ok (reader.push (.flags span flags) { cursor with verbose })
  | (.group span kind, cursor) =>
    let (nextIndex, names) := match kind with
      | .captureIndex _ => (reader.nextIndex + 1, reader.names)
      | .captureName _ name => (reader.nextIndex + 1, name :: reader.names)
      | .nonCapturing _ => (reader.nextIndex, reader.names)
    let frame : Frame := ⟨reader.level, span, kind, cursor.verbose⟩
    .ok ⟨{ cursor with verbose := kind.verbose cursor.verbose }, Level.starting cursor,
      frame :: reader.frames, nextIndex, names⟩

/-- Closes the innermost group at the parenthesis at the cursor. -/
def closing (reader : Reader) : Except SyntaxError Reader :=
  match reader.frames with
  | [] => refuse .groupUnopened reader.cursor.charSpan
  | frame :: frames =>
    let cursor := { reader.cursor.advance with verbose := frame.verbose }
    let group := Ast.group (cursor.since frame.span.start) frame.kind
      (reader.level.toAst reader.cursor.position)
    .ok { reader with cursor, level := frame.outer.push group, frames }

/-- Replaces the items of the branch, of which an operator has repeated the last one. -/
def repeated (reader : Reader) (result : List Ast × Cursor) : Reader :=
  { reader with level := { reader.level with reversed := result.1 }, cursor := result.2 }

/-- Takes the part of the pattern that the character at the cursor begins. -/
def step (octalAllowed : Bool) (c : Char) (reader : Reader) : Except SyntaxError Reader :=
  let items := reader.level.reversed
  match c with
  | '(' => reader.opening
  | ')' => reader.closing
  | '|' => .ok { reader with
      level := reader.level.nextBranch reader.cursor, cursor := reader.cursor.advance }
  | '[' => do
    let (result, cursor) ← Bracket.parse octalAllowed reader.cursor
    .ok (reader.push (.bracketed result.span result.negated result.body) cursor)
  | '?' => reader.repeated <$> Repetition.parse .zeroOrOne items reader.cursor
  | '*' => reader.repeated <$> Repetition.parse .zeroOrMore items reader.cursor
  | '+' => reader.repeated <$> Repetition.parse .oneOrMore items reader.cursor
  | '\x7b' => reader.repeated <$> Repetition.parseCounted items reader.cursor
  | _ => do
    let (part, cursor) ← Primitive.parse octalAllowed c reader.cursor
    .ok (reader.push part.toAst cursor)

/-- The tree of a pattern of which nothing is left. -/
def finish (reader : Reader) : Except SyntaxError Ast :=
  match reader.frames with
  | [] => .ok (reader.level.toAst reader.cursor.position)
  | frame :: _ => refuse .groupUnclosed frame.span

/-- Reads to the end of the pattern. The first argument bounds the characters that are left, of
which each step takes at least one. -/
def run (octalAllowed : Bool) : Nat → Reader → Except SyntaxError Ast
  | 0, reader => reader.finish
  | bound + 1, reader =>
    let reader := { reader with cursor := reader.cursor.skip }
    match reader.cursor.peek? with
    | none => reader.finish
    | some c => do run octalAllowed bound (← reader.step octalAllowed c)

end Reader

/-- Reads a pattern under the settings that govern its syntax. -/
def Ast.parse (options : Options) (pattern : String) : Except SyntaxError Ast := do
  let reader := Reader.ofString options.ignoreWhitespace pattern
  let ast ← reader.run options.octal reader.cursor.rest.length
  ast.checkNesting options.nestLimit 0
  .ok ast

end SchemaMatch.Syntax
