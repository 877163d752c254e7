import SchemaMatch.Derive.Literal
import SchemaMatch.Text.Quoted

/-!
# Splitting a declaration into tokens

Blanks and comments separate tokens. A comment that documents what follows stands for an attribute.
Delimiters must close in the order in which they open.
-/

namespace SchemaMatch.Derive

namespace Lexer

def isBlank (c : Char) : Bool :=
  Unicode.isBlank c || c == '\u200e' || c == '\u200f'

/-- Splits characters at the end of the line. The line does not hold its end; a carriage return
before the line feed belongs to the end. -/
def splitLine : List Char → List Char × List Char
  | [] => ([], [])
  | '\n' :: rest => ([], '\n' :: rest)
  | '\r' :: '\n' :: rest => ([], '\n' :: rest)
  | c :: rest =>
    let (line, rest) := splitLine rest
    (c :: line, rest)

/-- Splits characters at the end of a comment whose opening has been read at a depth. Comments nest.
The comment holds its closing. -/
def splitComment? : Nat → List Char → Option (List Char × List Char)
  | depth, '/' :: '*' :: rest => do
    let (comment, rest) ← splitComment? (depth + 1) rest
    some ('/' :: '*' :: comment, rest)
  | 0, '*' :: '/' :: rest => some (['*', '/'], rest)
  | depth + 1, '*' :: '/' :: rest => do
    let (comment, rest) ← splitComment? depth rest
    some ('*' :: '/' :: comment, rest)
  | depth, c :: rest => do
    let (comment, rest) ← splitComment? depth rest
    some (c :: comment, rest)
  | _, [] => none

def skipComment? : List Char → Option (List Char)
  | '/' :: '/' :: '/' :: '/' :: rest => some (splitLine rest).2
  | '/' :: '/' :: '/' :: _ => none
  | '/' :: '/' :: '!' :: _ => none
  | '/' :: '/' :: rest => some (splitLine rest).2
  | '/' :: '*' :: '*' :: '/' :: rest => some rest
  | '/' :: '*' :: '*' :: '*' :: rest => (splitComment? 0 ('*' :: '*' :: rest)).map (·.2)
  | '/' :: '*' :: '*' :: _ => none
  | '/' :: '*' :: '!' :: _ => none
  | '/' :: '*' :: rest => (splitComment? 0 rest).map (·.2)
  | _ => none

/-- Past blanks and comments that document nothing. The first argument bounds the characters that
are left. -/
def skipBlanks : Nat → List Char → List Char
  | bound + 1, c :: rest =>
    if isBlank c then skipBlanks bound rest
    else
      match skipComment? (c :: rest) with
      | some rest => skipBlanks bound rest
      | none => c :: rest
  | _, chars => chars

/-- Whether each carriage return stands before a line feed. -/
def returnsPaired : List Char → Bool
  | '\r' :: '\n' :: rest => returnsPaired rest
  | '\r' :: _ => false
  | _ :: rest => returnsPaired rest
  | [] => true

/-- The text of a comment as it stands in quotes. A zero is written at length before a digit that
would belong to its escape. -/
def quotedComment : List Char → String
  | [] => ""
  | '\x00' :: rest =>
    let zero := if rest.head?.any fun c => '0' ≤ c && c ≤ '7' then "\\x00" else "\\0"
    zero ++ quotedComment rest
  | c :: rest => Text.Quoted.char c ++ quotedComment rest

def documentation (inner : Bool) (comment : List Char) : List Token :=
  let value : Literal :=
    ⟨"\"" ++ quotedComment comment ++ "\"", .string (String.ofList comment)⟩
  let bang := if inner then [Token.punct '!' false] else []
  .punct '#' false :: bang ++
    [.group .bracket [.word "doc", .punct '=' false, .literal value]]

def documentation? (chars : List Char) : Option (List Token × List Char) := do
  let (inner, comment, rest) ← match chars with
    | '/' :: '/' :: '!' :: rest => some (true, splitLine rest)
    | '/' :: '/' :: '/' :: rest => some (false, splitLine rest)
    | '/' :: '*' :: '!' :: rest => (splitComment? 0 rest).map fun (comment, rest) =>
      (true, comment.dropLast.dropLast, rest)
    | '/' :: '*' :: '*' :: rest => (splitComment? 0 rest).map fun (comment, rest) =>
      (false, comment.dropLast.dropLast, rest)
    | _ => none
  if returnsPaired comment then some (documentation inner comment, rest) else none

def punctuation : List Char := "~!@#$%^&*-=+|;:,<.>/?'".toList

def startsPunct : List Char → Bool
  | '/' :: '/' :: _ => false
  | '/' :: '*' :: _ => false
  | c :: _ => punctuation.contains c
  | [] => false

def alwaysKeywords : List String := ["_", "super", "self", "Self", "crate"]

/-- Reads a word, which a mark in front may keep from being a keyword. -/
def word? : List Char → Option (String × List Char)
  | 'r' :: '#' :: rest => do
    let (word, rest) ← plainWord? rest
    let text := String.ofList word
    if alwaysKeywords.contains text then none else some ("r#" ++ text, rest)
  | chars => do
    let (word, rest) ← plainWord? chars
    some (String.ofList word, rest)

def literalOpenings : List String :=
  ["r\"", "r#\"", "r##", "b\"", "b'", "br\"", "br#", "c\"", "cr\"", "cr#"]

/-- Whether characters start like a literal that is named by letters. -/
def opensLiteral (chars : List Char) : Bool :=
  literalOpenings.any fun opening => opening.toList.isPrefixOf chars

/-- Reads a punctuation character. A quotation mark must start a name that no further mark
closes. -/
def punct? : List Char → Option (Token × List Char)
  | '\'' :: rest => do
    let (_, after) ← word? rest
    let marked := ['r', '#'].isPrefixOf rest
    if after.head? == some '\'' || (after.head? == some '#' && !marked) then none
    else some (.punct '\'' true, rest)
  | c :: rest =>
    if startsPunct (c :: rest) then some (.punct c (startsPunct rest), rest) else none
  | [] => none

def leaf? (chars : List Char) : Option (Token × List Char) :=
  match Literal.read? chars with
  | some (literal, rest) => some (.literal literal, rest)
  | none =>
    match punct? chars with
    | some found => some found
    | none =>
      if opensLiteral chars then none
      else (word? chars).map fun (word, rest) => (.word word, rest)

def opens? (chars : List Char) : Option Delimiter :=
  match chars.head? with
  | some '(' => if Literal.missingMark.isPrefixOf chars then none else some .parenthesis
  | some '[' => some .bracket
  | some '\x7b' => some .brace
  | _ => none

def closes? : Char → Option Delimiter
  | ')' => some .parenthesis
  | ']' => some .bracket
  | '\x7d' => some .brace
  | _ => none

/-- A group that is open, with the tokens that stand before it, latest first. -/
abbrev Frame := Delimiter × List Token

/-- Reads tokens up to the end. `done` holds the tokens of the innermost open group so far, latest
first. The first argument bounds the characters that are left. -/
def tokensFrom : Nat → List Frame → List Token → List Char → Option (List Token)
  | 0, _, _, _ => none
  | bound + 1, frames, done, chars =>
    let chars := skipBlanks chars.length chars
    match documentation? chars with
    | some (tokens, rest) => tokensFrom bound frames (tokens.reverse ++ done) rest
    | none =>
      match chars with
      | [] => if frames.isEmpty then some done.reverse else none
      | c :: rest =>
        match opens? (c :: rest), closes? c, frames with
        | some delimiter, _, _ => tokensFrom bound ((delimiter, done) :: frames) [] rest
        | none, some closed, (opened, before) :: frames =>
          if opened = closed then
            tokensFrom bound frames (.group opened done.reverse :: before) rest
          else none
        | none, some _, [] => none
        | none, none, _ =>
          match leaf? (c :: rest) with
          | some (token, rest) => tokensFrom bound frames (token :: done) rest
          | none => none

/-- Past the mark that may stand at the start of a file. -/
def skipMark : List Char → List Char
  | '\ufeff' :: rest => rest
  | chars => chars

end Lexer

def tokens? (text : String) : Option (List Token) :=
  let chars := Lexer.skipMark text.toList
  Lexer.tokensFrom (chars.length + 1) [] [] chars

end SchemaMatch.Derive
