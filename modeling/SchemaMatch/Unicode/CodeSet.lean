/-!
# Sets of code points

A set of code points is a list of inclusive ranges. `ofRanges` brings any list of ranges into
ascending order and joins ranges that touch, so that equal sets built by it are equal lists.
Membership is `contains`; `union`, `compl`, `inter` and `diff` are the operations on sets.

The ends of a range are characters, so that they are never surrogates, though a range may span the
surrogates. The character after U+D7FF is U+E000, and two ranges that end and start there do not
touch.
-/

namespace SchemaMatch.Unicode

/-- The code points from `lo` to `hi`, both included. -/
structure CodeRange where
  lo : Nat
  hi : Nat
  deriving DecidableEq, Repr

/-- A set of code points, as ranges. -/
structure CodeSet where
  ranges : List CodeRange
  deriving DecidableEq, Repr

def maxCode : Nat := 0x10FFFF

def parts (separator : Char) : List Char → List (List Char)
  | [] => [[]]
  | c :: rest =>
    if c == separator then [] :: parts separator rest
    else
      match parts separator rest with
      | part :: more => (c :: part) :: more
      | [] => [[c]]

/-- The value of a hexadecimal numeral; other characters count as zero. -/
def hexValue (digits : List Char) : Nat :=
  digits.foldl (fun value c => 16 * value + digit c) 0
where
  digit (c : Char) : Nat :=
    if c.isDigit then c.toNat - 48
    else if 'A' ≤ c ∧ c ≤ 'F' then c.toNat - 55
    else if 'a' ≤ c ∧ c ≤ 'f' then c.toNat - 87
    else 0

def nextCode (code : Nat) : Nat := if code = 0xD7FF then 0xE000 else code + 1

def previousCode (code : Nat) : Nat := if code = 0xE000 then 0xD7FF else code - 1

namespace CodeRange

def contains (range : CodeRange) (code : Nat) : Bool :=
  range.lo ≤ code && code ≤ range.hi

/-- The range between two code points, given in either order. -/
def between (a b : Nat) : CodeRange := ⟨min a b, max a b⟩

/-- Reads `LO-HI` or a single code point, in hexadecimal. -/
def ofText (text : List Char) : CodeRange :=
  match parts '-' text with
  | [lo, hi] => ⟨hexValue lo, hexValue hi⟩
  | _ => ⟨hexValue text, hexValue text⟩

end CodeRange

namespace CodeSet

def empty : CodeSet := ⟨[]⟩

def full : CodeSet := ⟨[⟨0, maxCode⟩]⟩

def contains (set : CodeSet) (code : Nat) : Bool :=
  set.ranges.any (·.contains code)

def has (set : CodeSet) (c : Char) : Bool :=
  set.contains c.toNat

def isEmpty (set : CodeSet) : Bool :=
  set.ranges.isEmpty

def isAscii (set : CodeSet) : Bool :=
  set.ranges.all (·.hi < 0x80)

/-- Joins an ascending list of ranges to a range that starts before them. -/
def coalesce (current : CodeRange) : List CodeRange → List CodeRange
  | [] => [current]
  | next :: rest =>
    if next.lo ≤ current.hi + 1 then coalesce ⟨current.lo, max current.hi next.hi⟩ rest
    else current :: coalesce next rest

/-- Puts a range among ascending ones, in front of those that start where it does. -/
def insert (range : CodeRange) : List CodeRange → List CodeRange
  | [] => [range]
  | first :: rest =>
    if range.lo ≤ first.lo then range :: first :: rest else first :: insert range rest

def ofRanges (ranges : List CodeRange) : CodeSet :=
  match ranges.foldr insert [] with
  | [] => empty
  | first :: rest => ⟨coalesce first rest⟩

def single (code : Nat) : CodeSet := ⟨[⟨code, code⟩]⟩

@[simp] theorem has_single (c : Char) : (single c.toNat).has c = true := by
  simp [single, has, contains, CodeRange.contains]

def single? (set : CodeSet) : Option Nat :=
  match set.ranges with
  | [range] => if range.lo = range.hi then some range.lo else none
  | _ => none

/-- The same set with ranges in order that do not touch. -/
def normalize (set : CodeSet) : CodeSet := ofRanges set.ranges

/-- The members of either set. -/
def union (a b : CodeSet) : CodeSet :=
  ofRanges (a.ranges ++ b.ranges)

def unionAll (sets : List CodeSet) : CodeSet :=
  ofRanges (sets.flatMap ranges)

def gaps : List CodeRange → List CodeRange
  | first :: second :: rest =>
    .between (nextCode first.hi) (previousCode second.lo) :: gaps (second :: rest)
  | _ => []

def leading (ranges : List CodeRange) : List CodeRange :=
  match ranges.head? with
  | some first => if 0 < first.lo then [⟨0, previousCode first.lo⟩] else []
  | none => []

def trailing (ranges : List CodeRange) : List CodeRange :=
  match ranges.getLast? with
  | some last => if last.hi < maxCode then [⟨nextCode last.hi, maxCode⟩] else []
  | none => []

def compl (set : CodeSet) : CodeSet :=
  if set.isEmpty then full
  else ⟨leading set.ranges ++ gaps set.ranges ++ trailing set.ranges⟩

def overlaps : List CodeRange → List CodeRange → List CodeRange
  | a :: as, b :: bs =>
    let rest := if a.hi < b.hi then overlaps as (b :: bs) else overlaps (a :: as) bs
    if max a.lo b.lo ≤ min a.hi b.hi then ⟨max a.lo b.lo, min a.hi b.hi⟩ :: rest else rest
  | _, _ => []
termination_by as bs => as.length + bs.length

def inter (a b : CodeSet) : CodeSet := ⟨overlaps a.ranges b.ranges⟩

def remains : List CodeRange → List CodeRange → List CodeRange
  | [], _ => []
  | as, [] => as
  | a :: as, b :: bs =>
    if b.hi < a.lo then remains (a :: as) bs
    else if a.hi < b.lo then a :: remains as (b :: bs)
    else
      let front := if a.lo < b.lo then [⟨a.lo, previousCode b.lo⟩] else []
      if b.hi < a.hi then front ++ remains (⟨nextCode b.hi, a.hi⟩ :: as) bs
      else front ++ remains as (b :: bs)
termination_by as bs => as.length + bs.length

def diff (a b : CodeSet) : CodeSet := ⟨remains a.ranges b.ranges⟩

def symmDiff (a b : CodeSet) : CodeSet :=
  (a.union b).diff (a.inter b)

/-- Reads a table row: ranges in hexadecimal, separated by blanks. -/
def ofText (row : List String) : CodeSet :=
  ⟨row.flatMap fun line => (parts ' ' line.toList).map CodeRange.ofText⟩

/-- The set that a table lists under a name; empty if it lists none. -/
def ofRow (rows : List (String × List String)) (name : String) : CodeSet :=
  match rows.lookup name with
  | some row => ofText row
  | none => empty

end CodeSet

end SchemaMatch.Unicode
