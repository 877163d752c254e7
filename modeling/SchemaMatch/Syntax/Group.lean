import SchemaMatch.Syntax.Ast
import SchemaMatch.Syntax.Cursor

/-!
# Openings of groups

What a parenthesis opens: a capturing group with or without a name, a group that captures nothing
and may switch flags, or a switch of flags that is complete in itself.
-/

namespace SchemaMatch.Syntax

/-- What was found at an opening parenthesis. -/
inductive Opening
  | flags (span : Span) (list : FlagList)
  | group (span : Span) (kind : GroupKind)
  deriving Repr

namespace FlagList

def earlier? (flags : FlagList) (kind : FlagItemKind) : Option FlagItem :=
  flags.items.find? (·.kind == kind)

/-- Whether a flag is switched on or off, if the list mentions it. -/
def state? (flags : FlagList) (flag : Flag) : Option Bool :=
  go true flags.items
where
  go (on : Bool) : List FlagItem → Option Bool
    | [] => none
    | item :: rest =>
      match item.kind with
      | .negation => go false rest
      | .flag other => if other == flag then some on else go on rest

end FlagList

namespace GroupKind

/-- Whether what follows the opening skips blanks, given whether what precedes it does. -/
def verbose (kind : GroupKind) (outside : Bool) : Bool :=
  match kind with
  | nonCapturing flags => (flags.state? .ignoreWhitespace).getD outside
  | _ => outside

end GroupKind

namespace Opening

def flag? : Char → Option Flag
  | 'i' => some .caseInsensitive
  | 'm' => some .multiLine
  | 's' => some .dotMatchesNewLine
  | 'U' => some .swapGreed
  | 'u' => some .unicode
  | 'R' => some .crlf
  | 'x' => some .ignoreWhitespace
  | _ => none

def flagItem? (c : Char) : Option FlagItemKind :=
  if c == '-' then some .negation else (flag? c).map .flag

def repeated (cursor : Cursor) (item earlier : FlagItem) : SyntaxError :=
  ⟨if item.kind == .negation then .flagRepeatedNegation else .flagDuplicate, cursor.charSpan,
    some earlier.span⟩

/-- Reads flags up to a colon or a closing parenthesis, of which the cursor holds one at the end.
The first argument bounds the characters that are left. -/
def flagItems : Nat → FlagList → Cursor → Except SyntaxError (FlagList × Cursor)
  | 0, list, cursor => .ok (list, cursor)
  | bound + 1, list, cursor =>
    match cursor.peek? with
    | none => refuse .flagUnexpectedEnd cursor.here
    | some c =>
      if c == ':' || c == ')' then
        match list.items.getLast? with
        | some ⟨span, .negation⟩ => refuse .flagDanglingNegation span
        | _ => .ok ({ list with span := cursor.since list.span.start }, cursor)
      else
        match flagItem? c with
        | none => refuse .flagUnrecognized cursor.charSpan
        | some kind =>
          let item : FlagItem := ⟨cursor.charSpan, kind⟩
          match list.earlier? kind with
          | some earlier => .error (repeated cursor item earlier)
          | none =>
            if cursor.advance.atEnd then refuse .flagUnexpectedEnd cursor.advance.here
            else
              flagItems bound { list with items := list.items ++ [item] } cursor.advance

def flagList (cursor : Cursor) : Except SyntaxError (FlagList × Cursor) :=
  flagItems cursor.rest.length ⟨cursor.here, []⟩ cursor

def isNameChar (c : Char) (isFirst : Bool) : Bool :=
  if isFirst then c == '_' || Unicode.isLetter c
  else c == '_' || c == '.' || c == '[' || c == ']' || Unicode.isLetterOrNumber c

def badNameChar? : Bool → List (Char × Position) → Option (Char × Position)
  | _, [] => none
  | isFirst, c :: rest =>
    if isNameChar c.1 isFirst then badNameChar? false rest else some c

def captureName (index : Nat) (names : List CaptureName) (cursor : Cursor) :
    Except SyntaxError (CaptureName × Cursor) :=
  if cursor.atEnd then refuse .groupNameUnexpectedEnd cursor.here
  else
    let (letters, close) :=
      Cursor.takeWhile (· != '>') Cursor.advance cursor.rest.length cursor
    match badNameChar? true letters with
    | some (c, position) => refuse .groupNameInvalid ⟨position, position.advance c⟩
    | none =>
      if close.atEnd then refuse .groupNameUnexpectedEnd close.here
      else if letters.isEmpty then refuse .groupNameEmpty cursor.here
      else
        let name : CaptureName :=
          ⟨close.since cursor.position, String.ofList (letters.map (·.1)), index⟩
        match names.find? (·.name == name.name) with
        | some earlier => .error ⟨.groupNameDuplicate, name.span, some earlier.span⟩
        | none => .ok (name, close.advance)

/-- The cursor after a sign of looking ahead or behind, which no group may open with. -/
def lookAround? (cursor : Cursor) : Option Cursor :=
  cursor.expect? ['?', '='] <|> cursor.expect? ['?', '!'] <|>
    cursor.expect? ['?', '<', '='] <|> cursor.expect? ['?', '<', '!']

/-- The cursor after the sign of a name, and whether the sign has a letter. -/
def named? (cursor : Cursor) : Option (Bool × Cursor) :=
  (cursor.expect? ['?', 'P', '<']).map (true, ·) <|>
    (cursor.expect? ['?', '<']).map (false, ·)

/-- Reads the opening parenthesis at the cursor and what belongs to it. A capturing group takes the
given index, and a name that no earlier group has. -/
def parse (index : Nat) (names : List CaptureName) (cursor : Cursor) :
    Except SyntaxError (Opening × Cursor) := do
  let start := cursor.position
  let paren := cursor.charSpan
  let inside := cursor.next
  match lookAround? inside with
  | some sign => refuse .lookAroundUnsupported (sign.since start)
  | none =>
    match named? inside with
    | some (startsWithP, sign) =>
      let (name, cursor) ← captureName index names sign
      .ok (.group paren (.captureName startsWithP name), cursor)
    | none =>
      match inside.expect? ['?'] with
      | none => .ok (.group paren (.captureIndex index), inside)
      | some sign =>
        if sign.atEnd then refuse .groupUnclosed paren
        let (list, close) ← flagList sign
        if close.sees ')' then
          if list.items.isEmpty then refuse .repetitionMissing inside.here
          .ok (.flags (close.advance.since start) list, close.advance)
        else .ok (.group paren (.nonCapturing list), close.advance)

end Opening

end SchemaMatch.Syntax
