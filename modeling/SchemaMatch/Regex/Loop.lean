import SchemaMatch.Regex.Arrival

/-!
# Loops

Repeating a term without a bound explores the states of a small program: a place in the program and
a position in the text. The preferred way is followed first, and a state that was met before is not
entered again, which ends every loop and also decides what a loop over an empty match prefers.
-/

namespace SchemaMatch.Regex

open Unicode (CodeSet)

/-- A step of a program; the numbers are places to go on at. -/
inductive Instruction
  | chars (set : CodeSet) (next : Nat)
  | look (condition : Look) (next : Nat)
  /-- Goes on at either place, preferring the first. -/
  | fork (first second : Nat)
  | openGroup (next : Nat)
  | closeGroup (index next : Nat)
  | halt
  deriving Repr

/-- The steps of a program by place. -/
abbrev Program := Array Instruction

namespace Program

def add (program : Program) (instruction : Instruction) : Nat × Program :=
  (program.size, program.push instruction)

/-- A fork that enters a loop or leaves it, as greed prefers. -/
def choose (greedy : Bool) (inside outside : Nat) : Instruction :=
  if greedy then .fork inside outside else .fork outside inside

/-- Adds a loop that takes its body at least once. The fork after the body has its place before the
body is known. -/
def addPlus (body : Nat → Program → Nat × Program) (greedy : Bool) (next : Nat)
    (program : Program) : Nat × Nat × Program :=
  let (fork, program) := program.add .halt
  let (entry, program) := body fork program
  (entry, fork, program.set! fork (choose greedy entry next))

def addCopies (body : Nat → Program → Nat × Program) : Nat → Nat → Program → Nat × Program
  | 0, next, program => (next, program)
  | count + 1, next, program =>
    let (entry, program) := body next program
    addCopies body count entry program

def addOptional (body : Nat → Program → Nat × Program) (greedy : Bool) (exit : Nat) :
    Nat → Program → Nat × Program
  | 0, program => (exit, program)
  | count + 1, program =>
    let (rest, program) := addOptional body greedy exit count program
    let (entry, program) := body rest program
    program.add (choose greedy entry exit)

/-- Adds a repetition of a body. A body that always consumes something loops through its fork; any
other body is entered through a fork of its own, so that preference stays in order. -/
def addRepetition (body : Nat → Program → Nat × Program) (consumes greedy : Bool)
    (min : Nat) (max : Option Nat) (next : Nat) (program : Program) : Nat × Program :=
  match max with
  | some max =>
    let (rest, program) := addOptional body greedy next (max - min) program
    addCopies body min rest program
  | none =>
    let (entry, fork, program) := addPlus body greedy next program
    match min with
    | 0 => if consumes then (fork, program) else program.add (choose greedy entry next)
    | copies + 1 => addCopies body copies entry program

def addText : List Char → Nat → Program → Nat × Program
  | [], next, program => (next, program)
  | c :: rest, next, program =>
    let (entry, program) := addText rest next program
    program.add (.chars (CodeSet.single c.toNat) entry)

/-- Adds the steps of a term that go on at `next`; the result is the place of the first one. -/
def addTerm : Term → Nat → Program → Nat × Program
  | .empty, next, program => (next, program)
  | .literal text, next, program => addText text next program
  | .chars _ set, next, program => program.add (.chars set next)
  | .look look, next, program => program.add (.look look next)
  | .rep min max greedy sub, next, program =>
    addRepetition (addTerm sub) sub.consumes greedy min max next program
  | .capture index sub, next, program =>
    let (close, program) := program.add (.closeGroup index next)
    let (entry, program) := addTerm sub close program
    program.add (.openGroup entry)
  | .seq first second, next, program =>
    let (entry, program) := addTerm second next program
    addTerm first entry program
  | .alt first second, next, program =>
    let (other, program) := addTerm second next program
    let (preferred, program) := addTerm first next program
    program.add (.fork preferred other)

def ofTerm (term : Term) : Nat × Program := addTerm term 0 #[.halt]

/-- A state that exploring has reached. -/
structure Thread where
  place : Nat
  arrival : Arrival
  /-- Where the groups started that are open, innermost first. -/
  opened : List Nat
  deriving Repr

/-- The states that one step leads to, preferred ones first. -/
def successors (subject : Subject) (thread : Thread) : Instruction → List Thread
  | .halt => []
  | .chars set next =>
    match subject.after? thread.arrival.position with
    | some c =>
      if set.has c then
        [{ thread with
          place := next, arrival := thread.arrival.moveTo (thread.arrival.position + 1) }]
      else []
    | none => []
  | .look look next =>
    if look.holds subject thread.arrival.position then [{ thread with place := next }] else []
  | .fork first second => [{ thread with place := first }, { thread with place := second }]
  | .openGroup next =>
    [{ thread with place := next, opened := thread.arrival.position :: thread.opened }]
  | .closeGroup index next =>
    match thread.opened with
    | start :: opened => [⟨next, thread.arrival.capture index start, opened⟩]
    | [] => []

/-- Explores states depth first and collects the arrivals at the end of the program. The first
argument bounds the number of states. -/
def explore (program : Program) (subject : Subject) :
    Nat → List Thread → Std.HashSet Nat → List Arrival → List Arrival
  | 0, _, _, found => found.reverse
  | _, [], _, found => found.reverse
  | bound + 1, thread :: threads, seen, found =>
    let state := thread.arrival.position * program.size + thread.place
    if seen.contains state then explore program subject bound threads seen found
    else
      let seen := seen.insert state
      match program[thread.place]? with
      | none => explore program subject bound threads seen found
      | some .halt => explore program subject bound threads seen (thread.arrival :: found)
      | some instruction =>
        explore program subject bound (successors subject thread instruction ++ threads) seen
          found

/-- A bound on the states that exploring can meet: each step leads to at most two, and is taken at
most once at each position. -/
def stateBound (program : Program) (subject : Subject) : Nat :=
  2 * program.size * (subject.size + 1) + 2

/-- The arrivals of a program from a place. -/
def run (subject : Subject) (entry : Nat) (program : Program) (start : Arrival) :
    List Arrival :=
  explore program subject (program.stateBound subject) [⟨entry, start, []⟩] ∅ []

end Program

def exploreTerm (subject : Subject) (term : Term) (start : Arrival) : List Arrival :=
  let (entry, program) := Program.ofTerm term
  program.run subject entry start

def runLength (subject : Subject) (set : CodeSet) : Nat → Nat → Nat
  | 0, _ => 0
  | bound + 1, position =>
    match subject.after? position with
    | some c => if set.has c then runLength subject set bound (position + 1) + 1 else 0
    | none => 0

/-- The arrivals of a repeated set of characters: one for each admitted number of characters, the
greatest number first where the repetition is greedy. -/
def repeatSet (subject : Subject) (set : CodeSet) (min : Nat) (max : Option Nat) (greedy : Bool)
    (start : Arrival) : List Arrival :=
  let left := subject.size - start.position
  let length := runLength subject set ((max.map (Nat.min left)).getD left) start.position
  let admitted := (List.range' min (length + 1 - min)).map fun count =>
    start.moveTo (start.position + count)
  if greedy then admitted.reverse else admitted

end SchemaMatch.Regex
