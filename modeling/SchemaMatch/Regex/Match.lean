import SchemaMatch.Regex.Loop
import SchemaMatch.Regex.Start

/-!
# Matching

The arrivals of a term are those of its parts, put together: one after another for a sequence,
first those of the preferred branch for a choice. Repetition of a set of characters counts
characters; a fixed number of copies is a sequence; an optional copy is a choice; every other
repetition explores a loop. The match from a position is the preferred arrival, and the match of a
text is the one from the first position that has any. Positions from which no match can start are
not tried.
-/

namespace SchemaMatch.Regex

namespace Term

/-- Puts the arrivals of one more copy and of none in order of preference. -/
def preferMore (greedy : Bool) (more : List Arrival) (start : Arrival) : List Arrival :=
  distinct (if greedy then more ++ [start] else start :: more)

def arrivals (subject : Subject) : Term → Arrival → List Arrival
  | empty, start => [start]
  | literal text, start =>
    match subject.textEnd? text start.position with
    | some stop => [start.moveTo stop]
    | none => []
  | chars _ set, start =>
    match subject.after? start.position with
    | some c => if set.has c then [start.moveTo (start.position + 1)] else []
    | none => []
  | look condition, start => if condition.holds subject start.position then [start] else []
  | capture index sub, start =>
    (sub.arrivals subject start).map (Arrival.capture index start.position)
  | seq first second, start =>
    continueWith (second.arrivals subject) (first.arrivals subject start)
  | alt first second, start =>
    distinct (first.arrivals subject start ++ second.arrivals subject start)
  | rep min max greedy sub, start =>
    match sub.oneChar?, max with
    | some set, _ => repeatSet subject set min max greedy start
    | none, some max =>
      if max ≤ min then iterate (sub.arrivals subject) min [start]
      else if max == min + 1 then
        continueWith (fun arrival => preferMore greedy (sub.arrivals subject arrival) arrival)
          (iterate (sub.arrivals subject) min [start])
      else exploreTerm subject (rep min (some max) greedy sub) start
    | none, none => exploreTerm subject (rep min none greedy sub) start

def matchAt? (subject : Subject) (term : Term) (position : Nat) : Option Arrival :=
  (term.arrivals subject (Arrival.initial position)).head?

end Term

/-- A text that is searched for a term. -/
structure Search where
  subject : Subject
  term : Term
  /-- The positions that are tried; a match from any other is impossible. -/
  starts : PositionSet
  deriving Repr

namespace Search

def start (subject : Subject) (term : Term) : Search :=
  ⟨subject, term, term.possibleStarts subject⟩

def matchAt? (search : Search) (position : Nat) : Option (Nat × Arrival) :=
  if search.starts.has position then
    (search.term.matchAt? search.subject position).map fun arrival => (position, arrival)
  else none

def matchAmong? (search : Search) : Nat → Nat → Option (Nat × Arrival)
  | 0, _ => none
  | count + 1, position =>
    match search.matchAt? position with
    | some found => some found
    | none => matchAmong? search count (position + 1)

def matchFrom? (search : Search) (position : Nat) : Option (Nat × Arrival) :=
  search.matchAmong? (search.subject.size + 1 - position) position

/-- The matches that follow one another from a position on. A match that is empty and touches the
one before it is passed over in favour of a match from the next position. The first argument bounds
the number of matches. -/
def matchesFrom (search : Search) : Nat → Nat → Option Nat → List (Nat × Arrival)
  | 0, _, _ => []
  | bound + 1, position, previous =>
    match search.matchFrom? position with
    | none => []
    | some (start, arrival) =>
      if start == arrival.position && previous == some arrival.position then
        match search.matchFrom? (position + 1) with
        | none => []
        | some (start, arrival) =>
          (start, arrival) :: matchesFrom search bound arrival.position arrival.position
      else (start, arrival) :: matchesFrom search bound arrival.position arrival.position

end Search

namespace Term

def firstMatch? (subject : Subject) (term : Term) : Option (Nat × Arrival) :=
  (Search.start subject term).matchFrom? 0

/-- The non-overlapping matches of a text, from left to right. -/
def allMatches (subject : Subject) (term : Term) : List (Nat × Arrival) :=
  (Search.start subject term).matchesFrom (subject.size + 2) 0 none

end Term

end SchemaMatch.Regex
