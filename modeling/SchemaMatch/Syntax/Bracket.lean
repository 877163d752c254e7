import SchemaMatch.Syntax.Escape

/-!
# Bracketed classes

A bracketed class is read level by level: a bracket opens a level, its mate closes it and makes the
whole level one item of the level around it. Within a level, items gather into a union, and an
operator takes everything to its left as its first operand.
-/

namespace SchemaMatch.Syntax.Bracket

/-- The items read so far, last first. -/
structure Items where
  span : Span
  reversed : List ClassSet
  deriving Repr

namespace Items

/-- No items yet. -/
def none (cursor : Cursor) : Items := ⟨cursor.here, []⟩

def push (items : Items) (item : ClassSet) : Items :=
  let start := if items.reversed.isEmpty then item.span.start else items.span.start
  ⟨⟨start, item.span.stop⟩, item :: items.reversed⟩

/-- The items as one set; a single item stands for itself. -/
def toSet (items : Items) : ClassSet :=
  match items.reversed with
  | [] => .empty items.span
  | [item] => item
  | reversed => .union items.span reversed.reverse

end Items

/-- A bracket that is still open. -/
structure Level where
  /-- The opening bracket and what belongs to it. -/
  opening : Span
  negated : Bool
  /-- An operator that waits for its second operand. -/
  pending : Option (SetOperator × ClassSet)
  items : Items
  deriving Repr

namespace Level

/-- The items of the level as the second operand of the operator that waits for it. -/
def operand (level : Level) : ClassSet :=
  let set := level.items.toSet
  match level.pending with
  | some (operator, lhs) => .binary ⟨lhs.span.start, set.span.stop⟩ operator lhs set
  | none => set

end Level

/-- The open brackets, innermost first. -/
structure State where
  level : Level
  outer : List Level
  deriving Repr

/-- A class that has been read. -/
structure Result where
  span : Span
  negated : Bool
  body : ClassSet
  deriving Repr

namespace State

def unclosed {α : Type} (state : State) : Except SyntaxError α :=
  refuse .classUnclosed state.level.opening

def push (state : State) (item : ClassSet) : State :=
  { state with level := { state.level with items := state.level.items.push item } }

end State

def asciiKind? : String → Option AsciiKind
  | "alnum" => some .alnum
  | "alpha" => some .alpha
  | "ascii" => some .ascii
  | "blank" => some .blank
  | "cntrl" => some .cntrl
  | "digit" => some .digit
  | "graph" => some .graph
  | "lower" => some .lower
  | "print" => some .print
  | "punct" => some .punct
  | "space" => some .space
  | "upper" => some .upper
  | "word" => some .word
  | "xdigit" => some .xdigit
  | _ => none

/-- A named class of ASCII characters at the cursor. What is not one opens a bracket instead. -/
def asciiClass? (cursor : Cursor) : Option (AsciiClass × Cursor) := do
  let colon ← cursor.expect? ['[', ':']
  let negated := colon.sees '^'
  let name := if negated then colon.advance else colon
  let (letters, close) :=
    Cursor.takeWhile (· != ':') Cursor.advance name.rest.length name
  let stop ← close.expect? [':', ']']
  let kind ← asciiKind? (String.ofList (letters.map (·.1)))
  some (⟨stop.since cursor.position, kind, negated⟩, stop)

/-- Reads hyphens at the start of a class, which stand for themselves. -/
def leadingHyphens (start : Position) :
    Nat → Items → Cursor → Except SyntaxError (Items × Cursor)
  | 0, items, cursor => .ok (items, cursor)
  | bound + 1, items, cursor =>
    if cursor.sees '-' then
      let items := items.push (.literal ⟨cursor.charSpan, .plain, '-'⟩)
      let cursor := cursor.next
      if cursor.atEnd then refuse .classUnclosed (Span.point start)
      else leadingHyphens start bound items cursor
    else .ok (items, cursor)

/-- Opens a bracket at the cursor, with the negation, the hyphens and the closing bracket that may
stand right after it. -/
def openLevel (cursor : Cursor) : Except SyntaxError (Level × Cursor) := do
  let start := cursor.position
  let inside := cursor.next
  if inside.atEnd then refuse .classUnclosed (inside.since start)
  let negated := inside.sees '^'
  let inside := if negated then inside.next else inside
  if inside.atEnd then refuse .classUnclosed (inside.since start)
  let (items, inside) ←
    leadingHyphens start inside.rest.length (Items.none inside) inside
  if items.reversed.isEmpty && inside.sees ']' then
    let items := items.push (.literal ⟨inside.charSpan, .plain, ']'⟩)
    let inside := inside.next
    if inside.atEnd then refuse .classUnclosed (inside.since start)
    .ok (⟨inside.since start, negated, none, items⟩, inside)
  else .ok (⟨inside.since start, negated, none, items⟩, inside)

/-- Reads an item of a class that may turn out to begin a range. -/
def item (octalAllowed : Bool) (cursor : Cursor) : Except SyntaxError (Primitive × Cursor) :=
  match cursor.peek? with
  | some '\\' => Escape.parse octalAllowed cursor
  | some c => .ok (.literal ⟨cursor.charSpan, .plain, c⟩, cursor.advance)
  | none => refuse .classUnclosed cursor.here

/-- Reads an item or a range at the cursor. A hyphen before a closing bracket stands for itself,
and two of them are an operator. -/
def rangeOrItem (octalAllowed : Bool) (state : State) (cursor : Cursor) :
    Except SyntaxError (State × Cursor) := do
  let (lo, cursor) ← item octalAllowed cursor
  let cursor := cursor.skip
  if cursor.atEnd then state.unclosed
  if !cursor.sees '-' || cursor.peekPast? == some ']' || cursor.peekPast? == some '-' then
    .ok (state.push (← lo.toClassSet), cursor)
  else
    let cursor := cursor.next
    if cursor.atEnd then state.unclosed
    let (hi, cursor) ← item octalAllowed cursor
    let span : Span := ⟨lo.span.start, hi.span.stop⟩
    let lo ← lo.toRangeEnd
    let hi ← hi.toRangeEnd
    if hi.char < lo.char then refuse .classRangeInvalid span
    .ok (state.push (.range span lo hi), cursor)

/-- Makes everything read in the innermost level the first operand of an operator. -/
def applyOperator (operator : SetOperator) (state : State) (cursor : Cursor) : State :=
  { state with level := { state.level with
      pending := some (operator, state.level.operand), items := Items.none cursor } }

/-- The operator whose doubled sign begins with the given character. -/
def operator? : Char → Option SetOperator
  | '&' => some .intersection
  | '-' => some .difference
  | '~' => some .symmetricDifference
  | _ => none

def closeLevel (state : State) (cursor : Cursor) : Sum State Result :=
  let span : Span := ⟨state.level.opening.start, cursor.position⟩
  let body := state.level.operand
  match state.outer with
  | [] => .inr ⟨span, state.level.negated, body⟩
  | level :: outer =>
    .inl (State.push ⟨level, outer⟩ (.bracketed span state.level.negated body))

/-- Reads to the end of a class. The first argument bounds the characters that are left. -/
def run (octalAllowed : Bool) :
    Nat → State → Cursor → Except SyntaxError (Result × Cursor)
  | 0, state, _ => state.unclosed
  | bound + 1, state, cursor => do
    let cursor := cursor.skip
    match cursor.peek? with
    | none => state.unclosed
    | some '[' =>
      match asciiClass? cursor with
      | some (ascii, cursor) => run octalAllowed bound (state.push (.ascii ascii)) cursor
      | none =>
        let (level, cursor) ← openLevel cursor
        run octalAllowed bound ⟨level, state.level :: state.outer⟩ cursor
    | some ']' =>
      let cursor := cursor.advance
      match closeLevel state cursor with
      | .inl state => run octalAllowed bound state cursor
      | .inr result => .ok (result, cursor)
    | some c =>
      match operator? c with
      | some operator =>
        if cursor.peekSecond? == some c then
          let cursor := cursor.advance.advance
          run octalAllowed bound (applyOperator operator state cursor) cursor
        else
          let (state, cursor) ← rangeOrItem octalAllowed state cursor
          run octalAllowed bound state cursor
      | none =>
        let (state, cursor) ← rangeOrItem octalAllowed state cursor
        run octalAllowed bound state cursor

/-- Reads the bracketed class at the cursor. -/
def parse (octalAllowed : Bool) (cursor : Cursor) : Except SyntaxError (Result × Cursor) := do
  let (level, inside) ← openLevel cursor
  run octalAllowed inside.rest.length ⟨level, []⟩ inside

end SchemaMatch.Syntax.Bracket
