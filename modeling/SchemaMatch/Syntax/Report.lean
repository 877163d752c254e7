import SchemaMatch.Syntax.Error

/-!
# Showing a syntax error

An error is shown as the pattern with carets under the place that is at fault. A pattern of several
lines has its lines numbered between two rules; a place that goes over several lines is named by
its line and column numbers instead of carets.
-/

namespace SchemaMatch.Syntax.Report

/-- The lines of a text, without the line feed and a carriage return before it. A line feed at the
end begins no further line. -/
def lines (text : String) : List String :=
  let parts := text.splitOn "\n"
  let parts := if parts.getLast? == some "" then parts.dropLast else parts
  parts.map fun line => if line.endsWith "\r" then (line.dropEnd 1).toString else line

/-- The order of spans by where they start and then by where they end. -/
def before (a b : Span) : Bool :=
  if a.start.offset == b.start.offset then a.stop.offset ≤ b.stop.offset
  else a.start.offset < b.start.offset

def repeated (n : Nat) (c : Char) : String := String.ofList (List.replicate n c)

def carets (column : Nat) : List Span → String
  | [] => ""
  | span :: rest =>
    let width := max 1 (span.stop.column - span.start.column)
    let start := max column (span.start.column - 1)
    repeated (start - column) ' ' ++ repeated width '^' ++ carets (start + width) rest

/-- The number of digits of line numbers, none for a pattern of a single line. -/
def numberWidth (pattern : String) : Nat :=
  let count := (lines pattern).length + if pattern.endsWith "\n" then 1 else 0
  if count ≤ 1 then 0 else (toString count).length

def margin (width number : Nat) : String :=
  if width == 0 then "    "
  else
    let digits := toString number
    repeated (width - digits.length) ' ' ++ digits ++ ": "

/-- The lines of a pattern from a number on, each with the carets that belong under it. -/
def notated (width : Nat) (spans : List Span) (number : Nat) : List String → String
  | [] => ""
  | line :: rest =>
    let here := spans.filter (·.start.line == number)
    let notes :=
      if here.isEmpty then ""
      else repeated (if width == 0 then 4 else width + 2) ' ' ++ carets 0 here ++ "\n"
    margin width number ++ line ++ "\n" ++ notes ++ notated width spans (number + 1) rest

/-- The place of a span that goes over several lines, in words. -/
def placeInWords (span : Span) : String :=
  s!"on line {span.start.line} (column {span.start.column}) through line {span.stop.line} " ++
    s!"(column {span.stop.column - 1})"

/-- The text that shows an error in a pattern. -/
def render (pattern : String) (error : SyntaxError) : String :=
  let spans := (error.span :: error.earlier.toList).mergeSort before
  let body := notated (numberWidth pattern) (spans.filter Span.isOneLine) 1 (lines pattern)
  if pattern.toList.contains '\n' then
    let rule := repeated 79 '~' ++ "\n"
    let wide := spans.filter fun span => !span.isOneLine
    let words :=
      if wide.isEmpty then "" else "\n".intercalate (wide.map placeInWords) ++ "\n"
    "regex parse error:\n" ++ rule ++ body ++ rule ++ words ++ "error: " ++ error.problem.message
  else "regex parse error:\n" ++ body ++ "error: " ++ error.problem.message

end SchemaMatch.Syntax.Report
