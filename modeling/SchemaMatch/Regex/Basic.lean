import SchemaMatch.Region
import SchemaMatch.Regex.Match
import SchemaMatch.Regex.Meaning
import SchemaMatch.Syntax.Parser
import SchemaMatch.Syntax.Report

/-!
# Compiled patterns

A pattern is compiled by reading it, giving it its meaning and checking its size, which is whatever
the engine measures it to be. Searching a text reports regions in bytes: one for the whole match and
one for each group that took part.
-/

namespace SchemaMatch

namespace Regex

open Syntax (Ast SyntaxError)

/-- The meaning of a pattern. -/
def Term.parse (options : Options) (pattern : String) : Except SyntaxError Term := do
  let ast ← Ast.parse options pattern
  let (term, _) ← meaning (Flags.ofOptions options) ast
  .ok term

/-- Why a pattern cannot be compiled. -/
inductive BuildError
  | invalid (pattern : String) (error : SyntaxError)
  | tooBig (limit : Nat)
  deriving DecidableEq, Repr

/-- The wording of a build error. -/
def BuildError.message : BuildError → String
  | invalid pattern error => Syntax.Report.render pattern error
  | tooBig limit => s!"Compiled regex exceeds size limit of {limit} bytes."

end Regex

/-- A compiled pattern. -/
structure Regex where
  pattern : String
  term : Regex.Term
  deriving DecidableEq, Repr

namespace Regex

/-- How an engine measures its programs. -/
class SizeMeasure where
  /-- The size of the program for a term, in bytes. -/
  programSize : Term → Nat

/-- Compiles a pattern. -/
def compile [SizeMeasure] (options : Options) (pattern : String) : Except BuildError Regex :=
  match Term.parse options pattern with
  | .error error => .error (.invalid pattern error)
  | .ok term =>
    if options.sizeLimit < SizeMeasure.programSize term then .error (.tooBig options.sizeLimit)
    else .ok ⟨pattern, term⟩

/-- The number of groups, counting the whole match as one. An index below the last one counts also
if its group stands where nothing is repeated, and is gone. -/
def groupCount (regex : Regex) : Nat := regex.term.lastGroup + 1

/-- The region between two positions. -/
def region (subject : Subject) (start stop : Nat) : Region :=
  ⟨subject.byteOffset start, subject.byteOffset stop⟩

/-- The regions of a match by group, first that of the whole match. -/
def regions (regex : Regex) (subject : Subject) (found : Nat × Arrival) :
    List (Option Region) :=
  some (region subject found.1 found.2.position) ::
    (List.range regex.term.lastGroup).map fun i =>
      (found.2.group? (i + 1)).map fun group => region subject group.start group.stop

/-- The regions of the leftmost match of a text. -/
def find? (regex : Regex) (text : String) : Option (List (Option Region)) :=
  let subject := Subject.ofString text
  (regex.term.firstMatch? subject).map (regex.regions subject)

/-- The regions of the non-overlapping matches of a text. -/
def findAll (regex : Regex) (text : String) : List (List (Option Region)) :=
  let subject := Subject.ofString text
  (regex.term.allMatches subject).map (regex.regions subject)

/-- Whether a text holds a match. -/
def isMatch (regex : Regex) (text : String) : Bool := (regex.find? text).isSome

end Regex

end SchemaMatch
