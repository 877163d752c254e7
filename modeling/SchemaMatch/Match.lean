import SchemaMatch.Region

/-!
# Matches

A match tells for each slot which region of the input it covers, if it took part.
-/

namespace SchemaMatch

/-- The regions of one match. -/
structure Match where
  input : String
  /-- One entry for each slot. -/
  regions : List (Option Region)
  deriving DecidableEq, Repr

namespace Match

/-- The region of a slot. A slot that the match does not have took no part. -/
def region? (m : Match) (slot : Nat) : Option Region := (m.regions[slot]?).join

def hasSlot (m : Match) (slot : Nat) : Bool := (m.region? slot).isSome

/-- The region of the whole match. -/
def whole? (m : Match) : Option Region := m.region? 0

/-- The number of slots. -/
def size (m : Match) : Nat := m.regions.length

def isEmpty (m : Match) : Bool := m.regions.isEmpty

end Match

end SchemaMatch
