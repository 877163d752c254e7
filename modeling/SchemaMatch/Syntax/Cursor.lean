import SchemaMatch.Syntax.Error
import SchemaMatch.Unicode.CharClass

/-!
# Reading a pattern

A cursor holds the characters that are left of a pattern, the position of the first of them, and
whether blanks and comments between the parts of the pattern are skipped at present. Reading is
stepping the cursor; `takeWhile` is the one loop over characters that the readers share.
-/

namespace SchemaMatch.Syntax

/-- What is left of a pattern. -/
structure Cursor where
  rest : List Char
  position : Position
  /-- Blanks and comments between parts of the pattern are skipped. -/
  verbose : Bool
  deriving Repr

namespace Cursor

/-- The start of a pattern. -/
def ofString (pattern : String) (verbose : Bool) : Cursor :=
  ⟨pattern.toList, Position.first, verbose⟩

def peek? (cursor : Cursor) : Option Char := cursor.rest.head?

def atEnd (cursor : Cursor) : Bool := cursor.rest.isEmpty

def sees (cursor : Cursor) (c : Char) : Bool := cursor.peek? == some c

def advance (cursor : Cursor) : Cursor :=
  match cursor.rest with
  | [] => cursor
  | c :: rest => { cursor with rest, position := cursor.position.advance c }

/-- Past blanks, and past comments from a number sign to the end of its line. -/
def skipFrom (position : Position) (inComment : Bool) : List Char → List Char × Position
  | [] => ([], position)
  | c :: rest =>
    if inComment then skipFrom (position.advance c) (c != '\n') rest
    else if Unicode.isBlank c then skipFrom (position.advance c) false rest
    else if c == '#' then skipFrom (position.advance c) true rest
    else (c :: rest, position)

/-- Past blanks and comments, where they are skipped. -/
def skip (cursor : Cursor) : Cursor :=
  if cursor.verbose then
    let (rest, position) := skipFrom cursor.position false cursor.rest
    { cursor with rest, position }
  else cursor

/-- Past the character at the cursor and what is skipped after it. -/
def next (cursor : Cursor) : Cursor := cursor.advance.skip

def expect? (cursor : Cursor) : List Char → Option Cursor
  | [] => some cursor
  | c :: text => if cursor.sees c then cursor.advance.expect? text else none

/-- The empty span at the cursor. -/
def here (cursor : Cursor) : Span := Span.point cursor.position

def charSpan (cursor : Cursor) : Span := ⟨cursor.position, cursor.advance.position⟩

def since (cursor : Cursor) (start : Position) : Span := ⟨start, cursor.position⟩

/-- The characters at the cursor that satisfy a predicate, each with its position, taking `step`
from one to the next. The first argument bounds their number. -/
def takeWhile (p : Char → Bool) (step : Cursor → Cursor) :
    Nat → Cursor → List (Char × Position) × Cursor
  | 0, cursor => ([], cursor)
  | bound + 1, cursor =>
    match cursor.peek? with
    | none => ([], cursor)
    | some c =>
      if p c then
        let (taken, last) := takeWhile p step bound (step cursor)
        ((c, cursor.position) :: taken, last)
      else ([], cursor)

/-- The characters at the cursor that satisfy a predicate, with what is skipped after each. -/
def spanWhile (cursor : Cursor) (p : Char → Bool) : List (Char × Position) × Cursor :=
  takeWhile p next cursor.rest.length cursor

def peekSecond? (cursor : Cursor) : Option Char := cursor.rest.tail.head?

/-- The first character that is neither blank nor, outside a comment, a number sign. Within a
comment only blanks and its opening sign are passed over. -/
def firstVisible? (inComment : Bool) : List Char → Option Char
  | [] => none
  | c :: rest =>
    if Unicode.isBlank c then firstVisible? inComment rest
    else if !inComment && c == '#' then firstVisible? true rest
    else some c

/-- The character that follows the one at the cursor, across what is skipped. With nothing but
skipped text ahead it is the first character of that text. -/
def peekPast? (cursor : Cursor) : Option Char :=
  if cursor.verbose then
    match firstVisible? false cursor.rest.tail with
    | some c => some c
    | none => cursor.peekSecond?
  else cursor.peekSecond?

end Cursor

def refuse {α : Type} (problem : Problem) (span : Span) : Except SyntaxError α :=
  .error ⟨problem, span, none⟩

end SchemaMatch.Syntax
