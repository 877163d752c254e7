import SchemaMatch.Syntax.Ast
import SchemaMatch.Syntax.Cursor

/-!
# Repetition operators

An operator applies to the item before it. Where there is none, or only a switch of flags, it is
refused.
-/

namespace SchemaMatch.Syntax.Repetition

def isRepeatable : Ast → Bool
  | .empty _ => false
  | .flags _ _ => false
  | _ => true

/-- The item that an operator at the cursor applies to, and the items before it. -/
def operand (reversed : List Ast) (cursor : Cursor) :
    Except SyntaxError (Ast × List Ast) :=
  match reversed with
  | sub :: before =>
    if isRepeatable sub then .ok (sub, before) else refuse .repetitionMissing cursor.here
  | [] => refuse .repetitionMissing cursor.here

def apply (sub : Ast) (kind : RepetitionKind) (greedy : Bool) (cursor : Cursor) : Ast :=
  .repetition (cursor.since sub.span.start) kind greedy sub

/-- Takes the question mark that makes an operator lazy. -/
def laziness (cursor : Cursor) : Bool × Cursor :=
  if cursor.sees '?' then (false, cursor.advance) else (true, cursor)

/-- Reads an operator of one sign at the cursor; the result is the items with the last one
repeated. -/
def parse (kind : RepetitionKind) (reversed : List Ast) (cursor : Cursor) :
    Except SyntaxError (List Ast × Cursor) := do
  let (sub, before) ← operand reversed cursor
  let (greedy, cursor) := laziness cursor.advance
  .ok (apply sub kind greedy cursor :: before, cursor)

/-- Reads a decimal number with blanks around it. Its value must fit into 32 bits. -/
def decimal (cursor : Cursor) : Except SyntaxError Nat × Cursor :=
  let start :=
    (Cursor.takeWhile Unicode.isBlank Cursor.advance cursor.rest.length cursor).2
  let (digits, stop) := start.spanWhile Char.isDigit
  let last := (stop.spanWhile Unicode.isBlank).2
  let span := stop.since start.position
  let value := digits.foldl (fun value digit => 10 * value + (digit.1.toNat - 48)) 0
  if digits.isEmpty then (refuse .repetitionCountDecimalEmpty span, last)
  else if value < Nat.pow 2 32 then (.ok value, last)
  else (refuse .decimalInvalid span, last)

def isOrdered : CountRange → Bool
  | .bounded min max => min ≤ max
  | _ => true

/-- Reads the numbers of a count after its first one, up to the closing brace. -/
def countRange (unclosed : Cursor → SyntaxError) (first : Except SyntaxError Nat)
    (cursor : Cursor) : Except SyntaxError (CountRange × Cursor) := do
  if cursor.sees ',' then
    let cursor := cursor.next
    if cursor.atEnd then .error (unclosed cursor)
    if cursor.sees '\x7d' then .ok (.atLeast (← first), cursor)
    else
      let min ← first
      let (max, cursor) := decimal cursor
      .ok (.bounded min (← max), cursor)
  else .ok (.exactly (← first), cursor)

/-- Reads a count in braces at the cursor; the result is the items with the last one repeated. -/
def parseCounted (reversed : List Ast) (cursor : Cursor) :
    Except SyntaxError (List Ast × Cursor) := do
  let start := cursor.position
  let unclosed (cursor : Cursor) : SyntaxError :=
    ⟨.repetitionCountUnclosed, cursor.since start, none⟩
  let (sub, before) ← operand reversed cursor
  let inside := cursor.next
  if inside.atEnd then .error (unclosed inside)
  let (first, inside) := decimal inside
  if inside.atEnd then .error (unclosed inside)
  let (range, close) ← countRange unclosed first inside
  if !close.sees '\x7d' then .error (unclosed close)
  let (greedy, cursor) := laziness close.next
  if !isOrdered range then refuse .repetitionCountInvalid (cursor.since start)
  .ok (apply sub (.counted range) greedy cursor :: before, cursor)

end SchemaMatch.Syntax.Repetition
