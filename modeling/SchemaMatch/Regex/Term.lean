import SchemaMatch.Regex.Look

/-!
# Regular expressions

A term says what is matched, with all flags of the pattern resolved: classes are sets of
characters, repetitions know whether they prefer more or less, and capturing groups carry their
index. Four constructors build terms in reduced form: `ofClass`, `repeated`, `sequence` and
`oneOf`. What the branches of a choice start with in common is taken out in front of it, and terms
count as the same only if they are built the same, so that the reduced form also decides what such
a choice prefers.
-/

namespace SchemaMatch.Regex

open Unicode (CodeSet)

/-- What a class is made of. Bytes are ASCII characters; a class of them matches what the same
class of characters matches, but is not the same term. -/
inductive Alphabet
  | characters
  | bytes
  deriving DecidableEq, Repr

/-- A regular expression. -/
inductive Term
  | empty
  /-- Some characters, one after another. -/
  | literal (text : List Char)
  /-- One character of a set; nothing if the set is empty. -/
  | chars (alphabet : Alphabet) (set : CodeSet)
  | look (condition : Look)
  /-- At least `min` and at most `max` copies, where there is a `max`. -/
  | rep (min : Nat) (max : Option Nat) (greedy : Bool) (sub : Term)
  | capture (index : Nat) (sub : Term)
  | seq (first second : Term)
  /-- Either term, preferring the first. -/
  | alt (first second : Term)
  deriving DecidableEq, Repr

namespace Term

/-- The least number of characters of a match; none if nothing matches. -/
def minLength : Term → Option Nat
  | empty => some 0
  | literal text => some text.length
  | chars _ set => if set.isEmpty then none else some 1
  | look _ => some 0
  | rep min _ _ sub => sub.minLength.map (· * min)
  | capture _ sub => sub.minLength
  | seq first second => do return (← first.minLength) + (← second.minLength)
  | alt first second => do return Nat.min (← first.minLength) (← second.minLength)

/-- The greatest number of characters of a match; none if there is no bound or no match. -/
def maxLength : Term → Option Nat
  | empty => some 0
  | literal text => some text.length
  | chars _ set => if set.isEmpty then none else some 1
  | look _ => some 0
  | rep _ max _ sub => do return (← sub.maxLength) * (← max)
  | capture _ sub => sub.maxLength
  | seq first second => do return (← first.maxLength) + (← second.maxLength)
  | alt first second => do return Nat.max (← first.maxLength) (← second.maxLength)

def consumes (term : Term) : Bool := term.minLength.any (0 < ·)

/-- The greatest index of a capturing group; zero if there is none. -/
def lastGroup : Term → Nat
  | rep _ _ _ sub => sub.lastGroup
  | capture index sub => Nat.max index sub.lastGroup
  | seq first second => Nat.max first.lastGroup second.lastGroup
  | alt first second => Nat.max first.lastGroup second.lastGroup
  | _ => 0

/-- The set of a term that matches exactly one character. -/
def oneChar? : Term → Option CodeSet
  | literal [c] => some (CodeSet.single c.toNat)
  | chars _ set => some set
  | _ => none

def fail : Term := chars .bytes CodeSet.empty

/-- A class in reduced form: one with a single member is a text. -/
def ofClass (alphabet : Alphabet) (set : CodeSet) : Term :=
  if set.isEmpty then fail
  else
    match set.single? with
    | some code => literal [Char.ofNat code]
    | none => chars alphabet set

/-- A repetition in reduced form. A term that only ever matches the empty text is taken once at
most; no copies match the empty text; and one copy is the term itself. -/
def repeated (min : Nat) (max : Option Nat) (greedy : Bool) (sub : Term) : Term :=
  let (min, max) :=
    if sub.maxLength == some 0 then (Nat.min min 1, some (Nat.min (max.getD 1) 1))
    else (min, max)
  if max == some 0 && min == 0 then empty
  else if max == some 1 && min == 1 then sub
  else rep min max greedy sub

def ofFactors : List Term → Term
  | [] => empty
  | [term] => term
  | term :: rest => seq term (ofFactors rest)

def factors : Term → List Term
  | empty => []
  | seq first second => first.factors ++ second.factors
  | other => [other]

/-- Puts a term in front of others. Two texts become one. -/
def prepend : Term → List Term → List Term
  | literal text, literal more :: rest => literal (text ++ more) :: rest
  | term, rest => term :: rest

def sequence (terms : List Term) : Term :=
  ofFactors ((terms.flatMap factors).foldr prepend [])

def ofBranches : List Term → Term
  | [] => fail
  | [branch] => branch
  | branch :: rest => alt branch (ofBranches rest)

def branches : Term → List Term
  | alt first second => first.branches ++ second.branches
  | other => [other]

def char? : Term → Option Char
  | literal [c] => some c
  | _ => none

def set? : Term → Option CodeSet
  | chars _ set => some set
  | _ => none

/-- The class that branches make if all are single characters, or if all are classes. -/
def joined? (branches : List Term) : Option Term :=
  let sets := branches.mapM fun branch => branch.char?.map fun c => CodeSet.single c.toNat
  (sets <|> branches.mapM set?).map fun sets => ofClass .characters (CodeSet.unionAll sets)

/-- A choice of branches that have nothing in common to start with. -/
def choice : List Term → Term
  | [branch] => branch
  | branches => (joined? branches).getD (ofBranches branches)

def commonPrefix : List Term → List Term → List Term
  | a :: as, b :: bs => if a = b then a :: commonPrefix as bs else []
  | _, _ => []

/-- What all branches start with in common, when each is made of several factors. -/
def sharedFactors : List (List Term) → List Term
  | [] => []
  | first :: rest =>
    if (first :: rest).all fun factors => 2 ≤ factors.length then
      rest.foldl commonPrefix first
    else []

/-- A choice of terms in reduced form, preferring earlier ones. Branches that are choices give
their own branches, and what all branches start with is taken out in front of the choice. -/
def oneOf (terms : List Term) : Term :=
  let branches := terms.flatMap branches
  let split := branches.map factors
  match branches, sharedFactors split with
  | _ :: _ :: _, shared@(_ :: _) =>
    let rests := split.map fun factors => sequence (factors.drop shared.length)
    sequence (shared ++ [choice (rests.flatMap Term.branches)])
  | _, _ => choice branches

end Term

end SchemaMatch.Regex
