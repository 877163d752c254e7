import SchemaMatch.Region

/-!
# Slices of a text

A slice is cut by byte offsets and exists only where both ends stand between characters.
-/

namespace SchemaMatch.Text

namespace Slice

/-- The characters after a number of bytes, if a character ends there. -/
def dropBytes? : List Char → Nat → Option (List Char)
  | chars, 0 => some chars
  | [], _ + 1 => none
  | c :: rest, n + 1 =>
    if c.utf8Size ≤ n + 1 then dropBytes? rest (n + 1 - c.utf8Size) else none

/-- The characters that take up a number of bytes, if a character ends there. -/
def takeBytes? : List Char → Nat → Option (List Char)
  | _, 0 => some []
  | [], _ + 1 => none
  | c :: rest, n + 1 =>
    if c.utf8Size ≤ n + 1 then (c :: ·) <$> takeBytes? rest (n + 1 - c.utf8Size) else none

end Slice

/-- The text that a region covers; none if the region is reversed, ends outside or cuts a
character. -/
def slice? (text : String) (region : Region) : Option String := do
  if region.stop < region.start then none
  let rest ← Slice.dropBytes? text.toList region.start
  let chars ← Slice.takeBytes? rest (region.stop - region.start)
  return String.ofList chars

end SchemaMatch.Text
