import SchemaMatch.Syntax.Ast
import SchemaMatch.Syntax.Cursor

/-!
# Escapes

What a backslash begins: an escaped character, a numeric escape in one of its notations, a class,
or an assertion. The same reader serves inside and outside of bracketed classes, so its result is
a `Primitive` that either place may go on to refuse.
-/

namespace SchemaMatch.Syntax

/-- The smallest parts of a pattern. -/
inductive Primitive
  | literal (value : Literal)
  | dot (span : Span)
  | assertion (span : Span) (kind : Assertion)
  | property (value : PropertyClass)
  | perl (value : PerlClass)
  deriving Repr

namespace Primitive

def span : Primitive → Span
  | literal value => value.span
  | dot span => span
  | assertion span _ => span
  | property value => value.span
  | perl value => value.span

def toAst : Primitive → Ast
  | literal value => .literal value
  | dot span => .dot span
  | assertion span kind => .assertion span kind
  | property value => .property value
  | perl value => .perl value

/-- The part as a member of a bracketed class, which cannot be an assertion. -/
def toClassSet : Primitive → Except SyntaxError ClassSet
  | literal value => .ok (.literal value)
  | property value => .ok (.property value)
  | perl value => .ok (.perl value)
  | other => refuse .classEscapeInvalid other.span

def toRangeEnd : Primitive → Except SyntaxError Literal
  | literal value => .ok value
  | other => refuse .classRangeLiteral other.span

end Primitive

/-- The characters with a meaning of their own somewhere in a pattern. -/
def isMeta (c : Char) : Bool :=
  ['\\', '.', '+', '*', '?', '(', ')', '|', '[', ']', '\x7b', '\x7d', '^', '$', '#', '&', '-',
    '~'].contains c

/-- The characters that may follow a backslash and then stand for themselves. -/
def isEscapable (c : Char) : Bool :=
  isMeta c || (c.toNat < 0x80 && !c.isAlphanum && c != '<' && c != '>')

def isHexDigit (c : Char) : Bool :=
  c.isDigit || ('a' ≤ c && c ≤ 'f') || ('A' ≤ c && c ≤ 'F')

/-- The character of a code point, unless it is a surrogate or too great. -/
def charOfCode? (code : Nat) : Option Char :=
  if code.isValidChar then some (Char.ofNat code) else none

namespace Escape

/-- The number of digits that an escape takes without braces. -/
def digitCount : HexWidth → Nat
  | .two => 2
  | .four => 4
  | .eight => 8

/-- Reads a fixed number of hexadecimal digits, of which the first stands at the cursor. -/
def fixedDigits : Nat → Bool → Cursor → Except SyntaxError (List Char × Cursor)
  | 0, _, cursor => .ok ([], cursor)
  | count + 1, isFirst, cursor => do
    let cursor := if isFirst then cursor else cursor.next
    match cursor.peek? with
    | none => refuse .escapeUnexpectedEnd cursor.here
    | some c =>
      if isHexDigit c then
        let (digits, last) ← fixedDigits count false cursor
        .ok (c :: digits, last)
      else refuse .escapeHexInvalidDigit cursor.charSpan

def hexChar (digits : List Char) (span : Span) : Except SyntaxError Char :=
  match charOfCode? (Unicode.hexValue digits) with
  | some c => .ok c
  | none => refuse .escapeHexInvalid span

def hexWithoutBraces (start : Position) (width : HexWidth) (cursor : Cursor) :
    Except SyntaxError (Primitive × Cursor) := do
  let (digits, last) ← fixedDigits (digitCount width) true cursor
  let stop := last.next
  let c ← hexChar digits (stop.since cursor.position)
  .ok (.literal ⟨stop.since start, .hexDigits width, c⟩, stop)

/-- What stands between an opening brace at the cursor and the closing brace after it, and the
cursor at the closing brace or at the end. -/
def braced (cursor : Cursor) : List (Char × Position) × Cursor :=
  cursor.next.spanWhile (· != '\x7d')

/-- An escape whose digits stand in braces, of which the opening one is at the cursor. -/
def hexInBraces (start : Position) (width : HexWidth) (cursor : Cursor) :
    Except SyntaxError (Primitive × Cursor) := do
  let (digits, close) := braced cursor
  match digits.find? fun digit => !isHexDigit digit.1 with
  | some (c, position) => refuse .escapeHexInvalidDigit ⟨position, position.advance c⟩
  | none =>
    if close.atEnd then refuse .escapeUnexpectedEnd (close.since cursor.position)
    else
      let stop := close.next
      if digits.isEmpty then refuse .escapeHexEmpty (stop.since cursor.position)
      else
        let c ← hexChar (digits.map (·.1)) (close.since cursor.advance.position)
        .ok (.literal ⟨stop.since start, .hexBraces width, c⟩, stop)

def hex (start : Position) (width : HexWidth) (cursor : Cursor) :
    Except SyntaxError (Primitive × Cursor) :=
  let digits := cursor.next
  match digits.peek? with
  | none => refuse .escapeUnexpectedEnd digits.here
  | some c =>
    if c == '\x7b' then hexInBraces start width digits else hexWithoutBraces start width digits

def octal (start : Position) (cursor : Cursor) : Primitive × Cursor :=
  let (digits, stop) :=
    Cursor.takeWhile (fun c => '0' ≤ c && c ≤ '7') Cursor.advance 3 cursor
  let code := digits.foldl (fun value digit => 8 * value + (digit.1.toNat - 48)) 0
  (.literal ⟨stop.since start, .octal, Char.ofNat code⟩, stop)

def splitAt? (separator : List Char) : List Char → Option (List Char × List Char)
  | [] => none
  | c :: rest =>
    if separator.isPrefixOf (c :: rest) then some ([], (c :: rest).drop separator.length)
    else (splitAt? separator rest).map fun (before, after) => (c :: before, after)

def propertyQuery (text : List Char) : PropertyQuery :=
  let valued (relation : PropertyRelation) (parts : List Char × List Char) :=
    PropertyQuery.valued relation (String.ofList parts.1) (String.ofList parts.2)
  match splitAt? ['!', '='] text with
  | some parts => valued .notEqual parts
  | none =>
    match splitAt? [':'] text with
    | some parts => valued .colon parts
    | none =>
      match splitAt? ['='] text with
      | some parts => valued .equal parts
      | none => .named (String.ofList text)

def propertyClass (start : Position) (negated : Bool) (cursor : Cursor) :
    Except SyntaxError (Primitive × Cursor) :=
  let name := cursor.next
  match name.peek? with
  | none => refuse .escapeUnexpectedEnd name.here
  | some '\x7b' =>
    let (text, close) := braced name
    if close.atEnd then refuse .escapeUnexpectedEnd close.here
    else
      let stop := close.advance
      .ok (.property ⟨stop.since start, negated, propertyQuery (text.map (·.1))⟩, stop)
  | some '\\' => refuse .propertyClassInvalid name.charSpan
  | some c =>
    let stop := name.next
    .ok (.property ⟨stop.since start, negated, .oneLetter c⟩, stop)

/-- The characters that the name of a word boundary in braces is made of. -/
def isBoundaryChar (c : Char) : Bool := c.isAlpha || c == '-'

def boundary? : List Char → Option Assertion
  | ['s', 't', 'a', 'r', 't'] => some .wordStart
  | ['e', 'n', 'd'] => some .wordEnd
  | ['s', 't', 'a', 'r', 't', '-', 'h', 'a', 'l', 'f'] => some .wordStartHalf
  | ['e', 'n', 'd', '-', 'h', 'a', 'l', 'f'] => some .wordEndHalf
  | _ => none

/-- A word boundary whose name may follow in braces; the cursor is after its letter. Braces that
hold no name begin a counted repetition, which is left to be read. -/
def wordBoundary (start : Position) (cursor : Cursor) :
    Except SyntaxError (Primitive × Cursor) :=
  let plain : Primitive × Cursor := (.assertion (cursor.since start) .wordEdge, cursor)
  if cursor.sees '\x7b' then
    let contents := cursor.next
    match contents.peek? with
    | none => refuse .wordBoundaryOrRepetitionUnexpectedEnd (contents.since start)
    | some c =>
      if isBoundaryChar c then
        let (name, close) := contents.spanWhile isBoundaryChar
        if close.sees '\x7d' then
          match boundary? (name.map (·.1)) with
          | some assertion =>
            .ok (.assertion (close.advance.since start) assertion, close.advance)
          | none => refuse .wordBoundaryUnrecognized (close.since contents.position)
        else refuse .wordBoundaryUnclosed (close.since cursor.position)
      else .ok plain
  else .ok plain

def perl? : Char → Option (PerlKind × Bool)
  | 'd' => some (.digit, false)
  | 'D' => some (.digit, true)
  | 's' => some (.space, false)
  | 'S' => some (.space, true)
  | 'w' => some (.word, false)
  | 'W' => some (.word, true)
  | _ => none

/-- The hexadecimal escape of a letter, if it begins one. -/
def hexWidth? : Char → Option HexWidth
  | 'x' => some .two
  | 'u' => some .four
  | 'U' => some .eight
  | _ => none

def control? : Char → Option (ControlEscape × Char)
  | 'a' => some (.bell, '\x07')
  | 'f' => some (.formFeed, '\x0c')
  | 't' => some (.tab, '\t')
  | 'n' => some (.lineFeed, '\n')
  | 'r' => some (.carriageReturn, '\r')
  | 'v' => some (.verticalTab, '\x0b')
  | _ => none

/-- The assertion of a letter, if it names one that braces cannot refine. -/
def assertion? : Char → Option Assertion
  | 'A' => some .textStart
  | 'z' => some .textEnd
  | 'B' => some .notWordEdge
  | '<' => some .wordStartAngle
  | '>' => some .wordEndAngle
  | _ => none

def oneLetter (start : Position) (c : Char) (cursor : Cursor) :
    Except SyntaxError (Primitive × Cursor) :=
  let stop := cursor.advance
  let span := stop.since start
  if isMeta c then .ok (.literal ⟨span, .escaped, c⟩, stop)
  else if isEscapable c then .ok (.literal ⟨span, .needlesslyEscaped, c⟩, stop)
  else
    match control? c, assertion? c with
    | some (escape, value), _ => .ok (.literal ⟨span, .control escape, value⟩, stop)
    | none, some assertion => .ok (.assertion span assertion, stop)
    | none, none =>
      if c == 'b' then wordBoundary start stop else refuse .escapeUnrecognized span

/-- What a backslash at the cursor begins. Digits are octal escapes if those are allowed, and
otherwise references to earlier groups, which are not supported. -/
def parse (octalAllowed : Bool) (cursor : Cursor) : Except SyntaxError (Primitive × Cursor) :=
  let start := cursor.position
  let letter := cursor.advance
  match letter.peek? with
  | none => refuse .escapeUnexpectedEnd (letter.since start)
  | some c =>
    if '0' ≤ c ∧ c ≤ '7' ∧ octalAllowed then .ok (octal start letter)
    else if c.isDigit ∧ !octalAllowed then
      refuse .backreferenceUnsupported ⟨start, letter.advance.position⟩
    else
      match hexWidth? c, perl? c with
      | some width, _ => hex start width letter
      | none, some (kind, negated) =>
        .ok (.perl ⟨letter.advance.since start, kind, negated⟩, letter.advance)
      | none, none =>
        if c == 'p' || c == 'P' then propertyClass start (c == 'P') letter
        else oneLetter start c letter

end Escape

/-- Reads the part of a pattern at the cursor that no operator begins. -/
def Primitive.parse (octalAllowed : Bool) (c : Char) (cursor : Cursor) :
    Except SyntaxError (Primitive × Cursor) :=
  match c with
  | '\\' => Escape.parse octalAllowed cursor
  | '.' => .ok (.dot cursor.charSpan, cursor.advance)
  | '^' => .ok (.assertion cursor.charSpan .lineStart, cursor.advance)
  | '$' => .ok (.assertion cursor.charSpan .lineEnd, cursor.advance)
  | _ => .ok (.literal ⟨cursor.charSpan, .plain, c⟩, cursor.advance)

end SchemaMatch.Syntax
