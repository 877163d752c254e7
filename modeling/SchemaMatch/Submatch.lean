import SchemaMatch.Region
import SchemaMatch.Text.Utf8

/-!
# Submatches

A submatch is a region together with the bytes that it covers.
-/

namespace SchemaMatch

/-- A region and the bytes that it covers. -/
structure Submatch where
  region : Region
  bytes : List UInt8
  deriving DecidableEq, Repr

namespace Submatch

/-- The submatch that nothing has been written to. -/
def blank : Submatch := ⟨⟨0, 0⟩, []⟩

/-- What a region covers; none if the region is reversed or ends outside. -/
def ofRegion? (region : Region) (bytes : List UInt8) : Option Submatch :=
  if region.start ≤ region.stop && region.stop ≤ bytes.length then
    some ⟨region, (bytes.drop region.start).take (region.stop - region.start)⟩
  else none

def length? (submatch : Submatch) : Option Nat :=
  let region := submatch.region
  if region.start ≤ region.stop then some (region.stop - region.start) else none

def isEmpty (submatch : Submatch) : Bool := submatch.region.isEmpty

def text? (submatch : Submatch) : Option String := Text.ofUtf8? submatch.bytes

def display (submatch : Submatch) : String := Text.ofUtf8Lossy submatch.bytes

def byte? (value : Json.Value) : Option UInt8 := do
  let byte ← value.nat?
  if byte < 256 then some (UInt8.ofNat byte) else none

/-- Reads a submatch. -/
def ofJson? (text : String) : Option Submatch := do
  match ← Json.record? ["begin", "end", "bytes"] (← Json.Value.parse? text) with
  | [start, stop, bytes] =>
    return ⟨⟨← start.nat?, ← stop.nat?⟩, ← (← bytes.items?).mapM byte?⟩
  | _ => none

/-- The JSON text of a submatch. -/
def toJson (submatch : Submatch) : String :=
  Json.objectText [("begin", toString submatch.region.start),
    ("end", toString submatch.region.stop),
    ("bytes", Json.arrayText (submatch.bytes.map toString))]

end Submatch

end SchemaMatch
