/-!
# Options

The syntax settings that apply to every fragment of a schema, and the limits on the size of the
pattern that is composed of them.
-/

namespace SchemaMatch

/-- How a schema is compiled. -/
structure Options where
  /-- Letters match regardless of case. -/
  caseInsensitive : Bool := false
  /-- Line anchors match at every line, not only at the ends of the text. -/
  multiLine : Bool := false
  /-- The dot also matches a line feed. -/
  dotMatchesNewLine : Bool := false
  /-- Greedy and lazy repetition change places. -/
  swapGreed : Bool := false
  /-- Blanks and comments in fragments are skipped. -/
  ignoreWhitespace : Bool := false
  /-- Classes and case folding go beyond ASCII. -/
  unicode : Bool := true
  /-- A backslash and octal digits name a character. -/
  octal : Bool := false
  /-- The greatest nesting depth of a syntax tree. -/
  nestLimit : Nat := 250
  /-- The greatest size of a compiled pattern, in bytes. -/
  sizeLimit : Nat := 10485760
  /-- The greatest size of the matcher's cache, in bytes; it bounds time and never answers. -/
  cacheLimit : Nat := 2097152
  deriving DecidableEq, Repr, Hashable

end SchemaMatch
