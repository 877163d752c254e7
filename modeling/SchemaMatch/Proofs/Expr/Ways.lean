import SchemaMatch.Expr.Basic
import SchemaMatch.Regex.Basic

/-!
# What a tree matches

The ways in which a tree matches from a place, preferred ones first. They are read off the tree
itself: a fragment matches what it matches when it is compiled alone, and everything else says how
the ways of its parts go together. `Expr.find?` gives the leftmost match of a text in this sense.
-/

namespace SchemaMatch.Expr

open Regex

/-- What a fragment means when it is compiled alone; of what means nothing, what matches nothing. -/
def fragmentTerm (options : Options) (text : String) : Term :=
  match Term.parse options text with
  | .ok term => term
  | .error _ => .fail

mutual

/-- The ways in which a tree matches from an arrival, in order of preference. -/
def ways (options : Options) (subject : Subject) : Expr → Arrival → List Arrival
  | fragment text, start =>
    ((fragmentTerm options text).arrivals subject (.initial start.position)).map fun arrival =>
      start.moveTo arrival.position
  | concat parts, start => waysAll options subject parts start
  | capture slot _ expr, start =>
    (ways options subject expr start).map (Arrival.capture slot start.position)
  | optional expr, start => ways options subject expr start ++ [start]
  | alternation parts, start => waysAny options subject parts start

def waysAll (options : Options) (subject : Subject) : List Expr → Arrival → List Arrival
  | [], start => [start]
  | expr :: rest, start =>
    (ways options subject expr start).flatMap fun middle => waysAll options subject rest middle

def waysAny (options : Options) (subject : Subject) : List Expr → Arrival → List Arrival
  | [], _ => []
  | expr :: rest, start => ways options subject expr start ++ waysAny options subject rest start

end

/-- The preferred way from the first position from which a tree matches, with that position. -/
def firstMatch? (options : Options) (subject : Subject) (expr : Expr) : Option (Nat × Arrival) :=
  (List.range (subject.size + 1)).findSome? fun position =>
    (expr.ways options subject (.initial position)).head?.map fun arrival => (position, arrival)

/-- The regions of a way, one for each slot. -/
def regions (expr : Expr) (subject : Subject) (way : Arrival) : List (Option Region) :=
  (List.range expr.captureCount).map fun slot =>
    (way.group? slot).map fun captured => Regex.region subject captured.start captured.stop

/-- The regions of the leftmost match of a text. -/
def find? (options : Options) (expr : Expr) (text : String) : Option (List (Option Region)) :=
  let subject := Subject.ofString text
  (expr.firstMatch? options subject).map fun found => expr.regions subject found.2

end SchemaMatch.Expr
