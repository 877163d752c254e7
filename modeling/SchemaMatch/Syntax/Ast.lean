import SchemaMatch.Syntax.Position

/-!
# Syntax trees of patterns

A syntax tree records a pattern as it is written, down to the way each character is escaped, so
that printing it gives the pattern back, blanks and comments apart.
-/

namespace SchemaMatch.Syntax

/-- The letter after the backslash of a hexadecimal escape, which fixes the digits it takes when
they stand without braces. -/
inductive HexWidth
  | two
  | four
  | eight
  deriving DecidableEq, Repr

/-- Characters with a one-letter escape of their own. -/
inductive ControlEscape
  | bell
  | formFeed
  | tab
  | lineFeed
  | carriageReturn
  | verticalTab
  deriving DecidableEq, Repr

/-- How a single character is written. -/
inductive LiteralForm
  /-- As itself. -/
  | plain
  /-- After a backslash that it needs, having a meaning of its own. -/
  | escaped
  /-- After a backslash that it could do without. -/
  | needlesslyEscaped
  | octal
  | hexDigits (width : HexWidth)
  | hexBraces (width : HexWidth)
  | control (escape : ControlEscape)
  deriving DecidableEq, Repr

/-- A single character. -/
structure Literal where
  span : Span
  form : LiteralForm
  char : Char
  deriving DecidableEq, Repr

/-- Conditions on a place in the text, which consume nothing. -/
inductive Assertion
  | lineStart
  | lineEnd
  | textStart
  | textEnd
  | wordEdge
  | notWordEdge
  | wordStart
  | wordEnd
  | wordStartAngle
  | wordEndAngle
  | wordStartHalf
  | wordEndHalf
  deriving DecidableEq, Repr

/-- The settings that a pattern can switch for a part of itself. -/
inductive Flag
  | caseInsensitive
  | multiLine
  | dotMatchesNewLine
  | swapGreed
  | unicode
  | crlf
  | ignoreWhitespace
  deriving DecidableEq, Repr

/-- One letter of a list of flags; after a negation, flags are switched off. -/
inductive FlagItemKind
  | negation
  | flag (value : Flag)
  deriving DecidableEq, Repr

/-- One letter of a list of flags, with its place. -/
structure FlagItem where
  span : Span
  kind : FlagItemKind
  deriving DecidableEq, Repr

/-- The flags between a question mark and the colon or parenthesis after them. -/
structure FlagList where
  span : Span
  items : List FlagItem
  deriving DecidableEq, Repr

/-- The name of a capturing group, with its place. -/
structure CaptureName where
  span : Span
  name : String
  index : Nat
  deriving DecidableEq, Repr

/-- What the opening of a group says. -/
inductive GroupKind
  | captureIndex (index : Nat)
  | captureName (startsWithP : Bool) (name : CaptureName)
  | nonCapturing (flags : FlagList)
  deriving DecidableEq, Repr

/-- The numbers of a counted repetition. -/
inductive CountRange
  | exactly (count : Nat)
  | atLeast (min : Nat)
  | bounded (min max : Nat)
  deriving DecidableEq, Repr

inductive RepetitionKind
  | zeroOrOne
  | zeroOrMore
  | oneOrMore
  | counted (range : CountRange)
  deriving DecidableEq, Repr

/-- The classes with a letter of their own. -/
inductive PerlKind
  | digit
  | space
  | word
  deriving DecidableEq, Repr

/-- A class written as a backslash and a letter. -/
structure PerlClass where
  span : Span
  kind : PerlKind
  negated : Bool
  deriving DecidableEq, Repr

/-- The sign between the name of a property and a value. -/
inductive PropertyRelation
  | equal
  | colon
  | notEqual
  deriving DecidableEq, Repr

/-- How a property of characters is asked for. -/
inductive PropertyQuery
  | oneLetter (letter : Char)
  | named (name : String)
  | valued (relation : PropertyRelation) (name value : String)
  deriving DecidableEq, Repr

/-- The class of the characters with a property. -/
structure PropertyClass where
  span : Span
  negated : Bool
  query : PropertyQuery
  deriving DecidableEq, Repr

/-- The classes of ASCII characters with a name in brackets and colons. -/
inductive AsciiKind
  | alnum
  | alpha
  | ascii
  | blank
  | cntrl
  | digit
  | graph
  | lower
  | print
  | punct
  | space
  | upper
  | word
  | xdigit
  deriving DecidableEq, Repr

/-- A class of ASCII characters by name. -/
structure AsciiClass where
  span : Span
  kind : AsciiKind
  negated : Bool
  deriving DecidableEq, Repr

/-- The operators between the parts of a bracketed class. -/
inductive SetOperator
  | intersection
  | difference
  | symmetricDifference
  deriving DecidableEq, Repr

inductive ClassSet
  | empty (span : Span)
  | literal (value : Literal)
  | range (span : Span) (lo hi : Literal)
  | ascii (value : AsciiClass)
  | property (value : PropertyClass)
  | perl (value : PerlClass)
  | bracketed (span : Span) (negated : Bool) (body : ClassSet)
  | union (span : Span) (items : List ClassSet)
  | binary (span : Span) (operator : SetOperator) (lhs rhs : ClassSet)
  deriving Repr

namespace ClassSet

def span : ClassSet → Span
  | empty span => span
  | literal value => value.span
  | range span _ _ => span
  | ascii value => value.span
  | property value => value.span
  | perl value => value.span
  | bracketed span _ _ => span
  | union span _ => span
  | binary span _ _ _ => span

end ClassSet

/-- The syntax tree of a pattern. -/
inductive Ast
  | empty (span : Span)
  /-- Switches flags for what follows in the same group. -/
  | flags (span : Span) (list : FlagList)
  | literal (value : Literal)
  | dot (span : Span)
  | assertion (span : Span) (kind : Assertion)
  | property (value : PropertyClass)
  | perl (value : PerlClass)
  | bracketed (span : Span) (negated : Bool) (body : ClassSet)
  | repetition (span : Span) (kind : RepetitionKind) (greedy : Bool) (sub : Ast)
  | group (span : Span) (kind : GroupKind) (sub : Ast)
  | alternation (span : Span) (branches : List Ast)
  | concat (span : Span) (items : List Ast)
  deriving Repr

namespace Ast

def span : Ast → Span
  | empty span => span
  | flags span _ => span
  | literal value => value.span
  | dot span => span
  | assertion span _ => span
  | property value => value.span
  | perl value => value.span
  | bracketed span _ _ => span
  | repetition span _ _ _ => span
  | group span _ _ => span
  | alternation span _ => span
  | concat span _ => span

end Ast

end SchemaMatch.Syntax
