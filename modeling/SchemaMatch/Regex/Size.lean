import SchemaMatch.Regex.Basic

/-!
# An estimate of the size of a program

The limit on the size of a pattern is about the program that a matcher of bytes would need. A command
line that has no such program estimates its size: copies of a repetition count each, and a class
counts the byte sequences that its characters are encoded in.
-/

namespace SchemaMatch.Regex

open Unicode (CodeSet CodeRange)

def stepSize : Nat := 32

def transitionSize : Nat := 8

/-- The number of byte sequences that the characters of a range are encoded in, roughly. -/
def sequenceCount (range : CodeRange) : Nat :=
  if range.hi < 0x80 then 1
  else 1 + (range.hi / 64 - range.lo / 64).log2

/-- The bytes that one byte sequence takes: a step of its own and what it adds to shared ones. -/
def sequenceSize : Nat := stepSize + 3 * transitionSize

def setSize (set : CodeSet) : Nat :=
  if set.isAscii then stepSize + transitionSize * set.ranges.length
  else
    (set.ranges.foldl (fun count range => count + sequenceCount range) 0) * sequenceSize

/-- The size of the steps for a term. -/
def Term.size : Term → Nat
  | empty => 0
  | literal text => text.length * stepSize
  | chars _ set => setSize set
  | look _ => stepSize
  | rep min max _ sub =>
    match max with
    | some max => Nat.max min max * (sub.size + stepSize)
    | none => Nat.max min 1 * sub.size + 2 * stepSize
  | capture _ sub => sub.size + 2 * stepSize
  | seq first second => first.size + second.size
  | alt first second => first.size + second.size + stepSize

/-- The estimate of a program: the steps for its term, those that start a search and those that end
it. -/
instance : SizeMeasure := ⟨fun term => term.size + 8 * stepSize⟩

end SchemaMatch.Regex
