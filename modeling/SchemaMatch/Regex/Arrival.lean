import SchemaMatch.Regex.Term
import Std.Data.HashSet

/-!
# Arrivals

Matching a term from a position leads to arrivals: the positions where a match may end, in order of
preference, each with what the groups captured on the way. What follows depends only on where a
match ends, so of several ways to one position only the preferred one is kept.
-/

namespace SchemaMatch.Regex

/-- What one group captured, from one position to another. -/
structure Captured where
  index : Nat
  start : Nat
  stop : Nat
  deriving DecidableEq, Repr

/-- A position that matching has reached. -/
structure Arrival where
  position : Nat
  /-- What groups captured on the way, latest first. -/
  captured : List Captured
  deriving DecidableEq, Repr

namespace Arrival

/-- A position with nothing captured yet. -/
def initial (position : Nat) : Arrival := ⟨position, []⟩

def moveTo (arrival : Arrival) (position : Nat) : Arrival := { arrival with position }

/-- Records what a group captured, from `start` to where the arrival is. -/
def capture (index start : Nat) (arrival : Arrival) : Arrival :=
  { arrival with captured := ⟨index, start, arrival.position⟩ :: arrival.captured }

def group? (arrival : Arrival) (index : Nat) : Option Captured :=
  arrival.captured.find? (·.index == index)

end Arrival

/-- Drops arrivals at positions that are among the `seen` ones, or at which an earlier one is. -/
def distinctFrom (seen : Std.HashSet Nat) : List Arrival → List Arrival
  | [] => []
  | arrival :: rest =>
    if seen.contains arrival.position then distinctFrom seen rest
    else arrival :: distinctFrom (seen.insert arrival.position) rest

/-- The preferred arrival at each position, in order of preference. -/
def distinct : List Arrival → List Arrival
  | [] => []
  | [arrival] => [arrival]
  | arrivals => distinctFrom ∅ arrivals

def continueWith (next : Arrival → List Arrival) (arrivals : List Arrival) : List Arrival :=
  distinct (arrivals.flatMap next)

def iterate (next : Arrival → List Arrival) : Nat → List Arrival → List Arrival
  | 0, arrivals => arrivals
  | count + 1, arrivals => iterate next count (continueWith next arrivals)

end SchemaMatch.Regex
