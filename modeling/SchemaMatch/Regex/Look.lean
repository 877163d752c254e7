import SchemaMatch.Regex.Subject
import SchemaMatch.Unicode.CharClass

/-!
# Conditions on a position

A condition looks at the characters on either side of a position and consumes nothing.
-/

namespace SchemaMatch.Regex

/-- The conditions on a position that ask for the edge of a word. A half asks about one side. -/
inductive WordEdge
  | edge
  | notEdge
  | start
  | stop
  | startHalf
  | stopHalf
  deriving DecidableEq, Repr

/-- A condition on a position. -/
inductive Look
  | textStart
  | textEnd
  | lineStart
  | lineEnd
  /-- Like `lineStart`, where carriage returns end lines too. -/
  | crlfLineStart
  /-- Like `lineEnd`, where carriage returns end lines too. -/
  | crlfLineEnd
  | word (kind : WordEdge) (unicode : Bool)
  deriving DecidableEq, Repr

def isWordChar (unicode : Bool) (c : Char) : Bool :=
  if unicode then Unicode.wordChars.has c else c.isAlphanum || c == '_'

/-- Whether an edge stands between what is before and what is after, each given as whether it is a
word character. -/
def WordEdge.holds (before after : Bool) : WordEdge → Bool
  | edge => before != after
  | notEdge => before == after
  | start => !before && after
  | stop => before && !after
  | startHalf => !before
  | stopHalf => !after

/-- Whether a condition holds at a position. -/
def Look.holds (subject : Subject) (position : Nat) (look : Look) : Bool :=
  let before := subject.before? position
  let after := subject.after? position
  match look with
  | textStart => before.isNone
  | textEnd => after.isNone
  | lineStart => before.isNone || before == some '\n'
  | lineEnd => after.isNone || after == some '\n'
  | crlfLineStart =>
    before.isNone || before == some '\n' || (before == some '\r' && after != some '\n')
  | crlfLineEnd =>
    after.isNone || after == some '\r' || (after == some '\n' && before != some '\r')
  | word kind unicode =>
    kind.holds (before.any (isWordChar unicode)) (after.any (isWordChar unicode))

end SchemaMatch.Regex
