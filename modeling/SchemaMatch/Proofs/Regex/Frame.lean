import SchemaMatch.Proofs.Regex.Preference

/-!
# What was captured before

Matching a term looks at the position of an arrival and never at what has been captured: that is
kept beneath what the term captures itself. The main statements are `Term.arrivals_onto` and
`Term.arrivals_eq_map`, which is about terms that capture nothing.
-/

namespace SchemaMatch.Regex

def Arrival.onto (before : List Captured) (arrival : Arrival) : Arrival :=
  { arrival with captured := arrival.captured ++ before }

variable {before : List Captured}

@[simp] theorem Arrival.position_onto (before : List Captured) (arrival : Arrival) :
    (arrival.onto before).position = arrival.position := rfl

theorem distinctFrom_map {change : Arrival → Arrival}
    (stays : ∀ arrival, (change arrival).position = arrival.position)
    (seen : Std.HashSet Nat) (arrivals : List Arrival) :
    distinctFrom seen (arrivals.map change) = (distinctFrom seen arrivals).map change := by
  induction arrivals generalizing seen with
  | nil => rfl
  | cons first others ih =>
    simp only [List.map_cons, distinctFrom, stays]
    split
    · exact ih seen
    · rw [ih, List.map_cons]

theorem distinct_map {change : Arrival → Arrival}
    (stays : ∀ arrival, (change arrival).position = arrival.position) (arrivals : List Arrival) :
    distinct (arrivals.map change) = (distinct arrivals).map change := by
  match arrivals with
  | [] => rfl
  | [_] => rfl
  | first :: second :: others => exact distinctFrom_map stays ∅ (first :: second :: others)

/-- A way to go on that keeps what was captured before. -/
def Keeps (before : List Captured) (next : Arrival → List Arrival) : Prop :=
  ∀ arrival, next (arrival.onto before) = (next arrival).map (Arrival.onto before)

theorem flatMap_onto {next : Arrival → List Arrival} (keeps : Keeps before next)
    (arrivals : List Arrival) :
    (arrivals.map (Arrival.onto before)).flatMap next =
      (arrivals.flatMap next).map (Arrival.onto before) := by
  rw [List.flatMap_map, List.map_flatMap]
  exact congrArg (fun f => arrivals.flatMap f) (funext keeps)

theorem continueWith_onto {next : Arrival → List Arrival} (keeps : Keeps before next)
    (arrivals : List Arrival) :
    continueWith next (arrivals.map (Arrival.onto before)) =
      (continueWith next arrivals).map (Arrival.onto before) := by
  rw [continueWith, flatMap_onto keeps, distinct_map (Arrival.position_onto before), continueWith]

/-- Where a way to go on leads to depends only on where it starts, if it keeps what was captured. -/
theorem byPosition_of_keeps {next : Arrival → List Arrival} (keeps : ∀ before, Keeps before next) :
    Arrival.ByPosition next := by
  have positions (start : Arrival) : (next start).map Arrival.position =
      (next (.initial start.position)).map Arrival.position := by
    have moved := keeps start.captured (.initial start.position)
    change next start = _ at moved
    rw [moved, List.map_map]
    rfl
  intro a b same
  rw [positions a, positions b, same]

theorem iterate_onto {next : Arrival → List Arrival} (keeps : Keeps before next) (count : Nat)
    (arrivals : List Arrival) :
    iterate next count (arrivals.map (Arrival.onto before)) =
      (iterate next count arrivals).map (Arrival.onto before) := by
  induction count generalizing arrivals with
  | zero => rfl
  | succ count ih => rw [iterate, continueWith_onto keeps, ih, iterate]

namespace Program

def Thread.onto (before : List Captured) (thread : Thread) : Thread :=
  { thread with arrival := thread.arrival.onto before }

theorem successors_onto (subject : Subject) (thread : Thread) (instr : Instruction) :
    successors subject (thread.onto before) instr =
      (successors subject thread instr).map (Thread.onto before) := by
  cases instr with
  | halt => rfl
  | chars set next =>
    simp only [successors, Thread.onto, Arrival.position_onto]
    split
    · split
      · rfl
      · rfl
    · rfl
  | look condition next =>
    by_cases holds : condition.holds subject thread.arrival.position = true
    · have there : condition.holds subject (thread.onto before).arrival.position = true := holds
      simp only [successors, holds, there, if_true]
      rfl
    · have there : ¬ condition.holds subject (thread.onto before).arrival.position = true := holds
      simp only [successors, holds, there]
      rfl
  | fork first second => rfl
  | openGroup next => rfl
  | closeGroup index next =>
    simp only [successors, Thread.onto]
    split
    · rfl
    · rfl

/-- Exploring follows the same states, whatever was captured before. -/
theorem explore_onto (program : Program) (subject : Subject) (bound : Nat)
    (threads : List Thread) (seen : Std.HashSet Nat) (found : List Arrival) :
    explore program subject bound (threads.map (Thread.onto before)) seen
        (found.map (Arrival.onto before)) =
      (explore program subject bound threads seen found).map (Arrival.onto before) := by
  induction bound generalizing threads seen found with
  | zero => simp only [explore, List.map_reverse]
  | succ bound ih =>
    cases threads with
    | nil => simp only [explore, List.map_nil, List.map_reverse]
    | cons thread threads =>
      have place : (thread.onto before).place = thread.place := rfl
      have position : (thread.onto before).arrival.position = thread.arrival.position := rfl
      simp only [List.map_cons, explore, place, position]
      split
      · exact ih threads seen found
      · split
        · exact ih threads _ found
        · exact ih threads _ (thread.arrival :: found)
        · rw [successors_onto, ← List.map_append]
          exact ih _ _ found

end Program

theorem exploreTerm_onto (subject : Subject) (term : Term) (start : Arrival) :
    exploreTerm subject term (start.onto before) =
      (exploreTerm subject term start).map (Arrival.onto before) :=
  Program.explore_onto (Program.ofTerm term).2 subject _ [⟨(Program.ofTerm term).1, start, []⟩] ∅ []

theorem repeatSet_onto (subject : Subject) (set : Unicode.CodeSet) (min : Nat) (max : Option Nat)
    (greedy : Bool) (start : Arrival) :
    repeatSet subject set min max greedy (start.onto before) =
      (repeatSet subject set min max greedy start).map (Arrival.onto before) := by
  simp only [repeatSet, Arrival.position_onto]
  split
  · rw [List.map_reverse, List.map_map]
    rfl
  · rw [List.map_map]
    rfl

namespace Term

theorem preferMore_onto (greedy : Bool) (more : List Arrival) (start : Arrival) :
    preferMore greedy (more.map (Arrival.onto before)) (start.onto before) =
      (preferMore greedy more start).map (Arrival.onto before) := by
  rw [preferMore, preferMore, ← distinct_map (Arrival.position_onto before)]
  cases greedy with
  | false => rfl
  | true => simp only [if_true, List.map_append, List.map_cons, List.map_nil]

theorem arrivals_onto (subject : Subject) (before : List Captured) (term : Term) :
    Keeps before (term.arrivals subject) := by
  induction term with
  | empty => exact fun _ => rfl
  | literal text =>
    intro start
    simp only [arrivals, Arrival.position_onto]
    split
    · rfl
    · rfl
  | chars alphabet set =>
    intro start
    simp only [arrivals, Arrival.position_onto]
    split
    · split
      · rfl
      · rfl
    · rfl
  | look condition =>
    intro start
    by_cases holds : condition.holds subject start.position = true
    · have there : condition.holds subject (start.onto before).position = true := holds
      simp only [arrivals, holds, there, if_true]
      rfl
    · have there : ¬ condition.holds subject (start.onto before).position = true := holds
      simp only [arrivals, holds, there]
      rfl
  | rep min max greedy sub ih =>
    intro start
    have copies := iterate_onto ih min [start]
    rw [List.map_cons, List.map_nil] at copies
    have optional : Keeps before
        fun arrival => preferMore greedy (sub.arrivals subject arrival) arrival := by
      intro arrival
      change preferMore greedy (sub.arrivals subject (arrival.onto before)) _ = _
      rw [ih arrival, preferMore_onto]
    simp only [arrivals]
    split
    · exact repeatSet_onto ..
    · split
      · exact copies
      · split
        · rw [copies, continueWith_onto optional]
        · exact exploreTerm_onto ..
    · exact exploreTerm_onto ..
  | capture index sub ih =>
    intro start
    simp only [arrivals, ih start, List.map_map, Arrival.position_onto]
    rfl
  | seq first second ih₁ ih₂ =>
    intro start
    simp only [arrivals]
    rw [ih₁ start, continueWith_onto ih₂]
  | alt first second ih₁ ih₂ =>
    intro start
    simp only [arrivals]
    rw [ih₁ start, ih₂ start, ← List.map_append, distinct_map (Arrival.position_onto before)]

theorem arrivals_eq_map_onto (subject : Subject) (term : Term) (start : Arrival) :
    term.arrivals subject start =
      (term.arrivals subject (.initial start.position)).map (Arrival.onto start.captured) :=
  arrivals_onto subject start.captured term (.initial start.position)

theorem byPosition_arrivals (subject : Subject) (term : Term) :
    Arrival.ByPosition (term.arrivals subject) :=
  byPosition_of_keeps fun before => arrivals_onto subject before term

/-- A term without groups leads to positions and captures nothing. -/
theorem arrivals_eq_map (subject : Subject) {term : Term} (plain : term.indices = [])
    (start : Arrival) :
    term.arrivals subject start =
      (term.arrivals subject (.initial start.position)).map fun arrival =>
        start.moveTo arrival.position := by
  rw [arrivals_eq_map_onto]
  refine List.map_congr_left fun arrival member => ?_
  have path := leads_arrivals subject term (.initial start.position) arrival member
  rw [plain] at path
  have none : arrival.captured = [] := by
    refine List.eq_nil_iff_forall_not_mem.2 fun captured inside => ?_
    rcases path.mem_or_index_mem captured inside with before | index
    · cases before
    · cases index
  rw [Arrival.onto, none]
  rfl

end Term

end SchemaMatch.Regex
