import SchemaMatch.Json.Record

/-!
# Regions

A region is a stretch of a text, in bytes. Nothing keeps its ends in order or inside the text.
-/

namespace SchemaMatch

/-- A stretch of a text, in bytes. -/
structure Region where
  start : Nat
  stop : Nat
  deriving DecidableEq, Repr, Inhabited

namespace Region

def isEmpty (region : Region) : Bool := region.start == region.stop

/-- Reads a region. -/
def ofJson? (text : String) : Option Region := do
  match ← Json.record? ["begin", "end"] (← Json.Value.parse? text) with
  | [start, stop] => return ⟨← start.nat?, ← stop.nat?⟩
  | _ => none

/-- The JSON text of a region. -/
def toJson (region : Region) : String :=
  Json.objectText [("begin", toString region.start), ("end", toString region.stop)]

end Region

end SchemaMatch
