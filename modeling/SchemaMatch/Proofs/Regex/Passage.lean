import SchemaMatch.Proofs.Regex.Groups
import SchemaMatch.Regex.Match

/-!
# The way of a match

A match of a term goes forward, passes only over characters of the sets that the term mentions and
captures only by its groups. The main statement is `Term.leads_arrivals`: every arrival ends a path.
The one for loops follows the states that are explored. What is said of a whole match is then said
of a path, by induction on its steps.
-/

namespace SchemaMatch.Regex

open Unicode (CodeSet)

/-- From one position to another over characters of some sets. -/
structure Subject.Over (subject : Subject) (sets : List CodeSet) (start stop : Nat) : Prop where
  le : start ≤ stop
  among : ∀ position, start ≤ position → position < stop →
    (subject.after? position).any (fun c => sets.any (·.has c)) = true

namespace Subject.Over

theorem refl (subject : Subject) (sets : List CodeSet) (p : Nat) : subject.Over sets p p :=
  ⟨Nat.le_refl p, fun q hq h => absurd hq (by omega)⟩

theorem trans {subject : Subject} {sets : List CodeSet} {p q r : Nat}
    (first : subject.Over sets p q) (second : subject.Over sets q r) : subject.Over sets p r where
  le := Nat.le_trans first.le second.le
  among i hp hr := by
    by_cases h : i < q
    · exact first.among i hp h
    · exact second.among i (by omega) hr

theorem step {subject : Subject} {sets : List CodeSet} {set : CodeSet} {p : Nat} {c : Char}
    (hc : subject.after? p = some c) (member : set ∈ sets) (h : set.has c = true) :
    subject.Over sets p (p + 1) where
  le := by omega
  among i hp hq := by
    have : i = p := by omega
    subst this
    simp only [hc, Option.any_some, List.any_eq_true]
    exact ⟨set, member, h⟩

theorem stop_le {subject : Subject} {sets : List CodeSet} {p q : Nat}
    (passage : subject.Over sets p q) (inside : p ≤ subject.size) : q ≤ subject.size := by
  by_cases h : p = q
  · omega
  · have := passage.among (q - 1) (by have := passage.le; omega) (by have := passage.le; omega)
    simp only [Option.any_eq_true] at this
    obtain ⟨c, hc, _⟩ := this
    have := (Array.getElem?_eq_some_iff.1 hc).1
    simp [Subject.size]
    omega

end Subject.Over

theorem mem_of_mem_distinctFrom {a : Arrival} {l : List Arrival} :
    ∀ {seen}, a ∈ distinctFrom seen l → a ∈ l := by
  induction l with
  | nil => simp [distinctFrom]
  | cons b rest ih =>
    intro seen h
    rw [distinctFrom] at h
    split at h
    · exact List.mem_cons_of_mem _ (ih h)
    · rcases List.mem_cons.1 h with rfl | h
      · exact List.mem_cons_self
      · exact List.mem_cons_of_mem _ (ih h)

theorem mem_of_mem_distinct {a : Arrival} {l : List Arrival} (h : a ∈ distinct l) : a ∈ l := by
  unfold distinct at h
  split at h
  · exact h
  · exact h
  · exact mem_of_mem_distinctFrom h

theorem exists_of_mem_continueWith {next : Arrival → List Arrival} {l : List Arrival} {a : Arrival}
    (h : a ∈ continueWith next l) : ∃ b ∈ l, a ∈ next b := by
  simpa using mem_of_mem_distinct h

/-- One more copy or none is an arrival of one more copy, or where it started. -/
theorem eq_or_mem_of_mem_preferMore {greedy : Bool} {more : List Arrival} {start arrival : Arrival}
    (member : arrival ∈ Term.preferMore greedy more start) : arrival = start ∨ arrival ∈ more := by
  have member := mem_of_mem_distinct member
  split at member
  · rcases List.mem_append.1 member with member | member
    · exact .inr member
    · exact .inl (List.mem_singleton.1 member)
  · exact List.mem_cons.1 member

/-- A way from an arrival: over characters of some sets, and capturing by groups with some indices,
each of which started where the way stands or before it. -/
inductive Subject.Path (subject : Subject) (sets : List CodeSet) (indices : List Nat)
    (start : Arrival) : Arrival → Prop
  | here : subject.Path sets indices start start
  | char {arrival : Arrival} {c : Char} {set : CodeSet}
      (path : subject.Path sets indices start arrival)
      (ahead : subject.after? arrival.position = some c) (member : set ∈ sets)
      (taken : set.has c = true) :
      subject.Path sets indices start (arrival.moveTo (arrival.position + 1))
  | capture {arrival : Arrival} {index opened : Nat}
      (path : subject.Path sets indices start arrival) (member : index ∈ indices)
      (forward : opened ≤ arrival.position) :
      subject.Path sets indices start (arrival.capture index opened)

namespace Subject.Path

variable {subject : Subject} {sets more : List CodeSet} {indices others : List Nat}
  {start arrival last : Arrival}

theorem trans (first : subject.Path sets indices start arrival)
    (second : subject.Path sets indices arrival last) : subject.Path sets indices start last := by
  induction second with
  | here => exact first
  | char _ ahead member taken ih => exact .char ih ahead member taken
  | capture _ member forward ih => exact .capture ih member forward

theorem mono (path : subject.Path sets indices start arrival) (sub : ∀ set ∈ sets, set ∈ more)
    (within : ∀ index ∈ indices, index ∈ others) : subject.Path more others start arrival := by
  induction path with
  | here => exact .here
  | char _ ahead member taken ih => exact .char ih ahead (sub _ member) taken
  | capture _ member forward ih => exact .capture ih (within _ member) forward

theorem passes (path : subject.Path sets indices start arrival) :
    subject.Over sets start.position arrival.position := by
  induction path with
  | here => exact .refl ..
  | char _ ahead member taken ih => exact ih.trans (.step ahead member taken)
  | capture _ _ _ ih => exact ih

/-- What has been captured at the end of a way was so before it, or by its groups. -/
theorem mem_or_index_mem (path : subject.Path sets indices start arrival) :
    ∀ captured ∈ arrival.captured, captured ∈ start.captured ∨ captured.index ∈ indices := by
  induction path with
  | here => exact fun _ among => .inl among
  | char _ _ _ _ ih => exact ih
  | capture _ member _ ih =>
    intro captured among
    rcases List.mem_cons.1 among with rfl | among
    · exact .inr member
    · exact ih captured among

theorem start_le_stop (path : subject.Path sets indices start arrival)
    (ordered : ∀ captured ∈ start.captured, captured.start ≤ captured.stop) :
    ∀ captured ∈ arrival.captured, captured.start ≤ captured.stop := by
  induction path with
  | here => exact ordered
  | char _ _ _ _ ih => exact ih
  | capture _ _ forward ih =>
    intro captured among
    rcases List.mem_cons.1 among with rfl | among
    · exact forward
    · exact ih captured among

theorem of_textEnd? {text : List Char} {stop : Nat}
    (stands : subject.textEnd? text start.position = some stop) :
    subject.Path (text.map fun c => CodeSet.single c.toNat) indices start (start.moveTo stop) := by
  induction text generalizing start with
  | nil =>
    cases Option.some.inj stands
    exact .here
  | cons c rest ih =>
    simp only [Subject.textEnd?] at stands
    split at stands
    · rename_i ahead
      have first : subject.Path ((c :: rest).map fun c => CodeSet.single c.toNat) indices start
          (start.moveTo (start.position + 1)) :=
        .char .here ahead List.mem_cons_self (CodeSet.has_single c)
      have onward : subject.Path (rest.map fun c => CodeSet.single c.toNat) indices
          (start.moveTo (start.position + 1)) (start.moveTo stop) := ih stands
      exact first.trans (onward.mono (fun _ among => List.mem_cons_of_mem _ among) fun _ => id)
    · cases stands

theorem of_le_runLength {set : CodeSet} {bound count : Nat}
    (within : count ≤ runLength subject set bound start.position) :
    subject.Path [set] indices start (start.moveTo (start.position + count)) := by
  induction bound generalizing start count with
  | zero =>
    cases Nat.le_zero.1 within
    exact .here
  | succ bound ih =>
    cases count with
    | zero => exact .here
    | succ count =>
      simp only [runLength] at within
      split at within
      · rename_i c ahead
        split at within
        · rename_i taken
          have first : subject.Path [set] indices start (start.moveTo (start.position + 1)) :=
            .char .here ahead List.mem_cons_self taken
          have onward : subject.Path [set] indices (start.moveTo (start.position + 1))
              (start.moveTo (start.position + 1 + count)) :=
            ih (Nat.le_of_succ_le_succ within)
          rw [Nat.add_comm count 1, ← Nat.add_assoc]
          exact first.trans onward
        · cases within
      · cases within

end Subject.Path

/-- A way to go on that leads along paths only. -/
def Leads (subject : Subject) (sets : List CodeSet) (indices : List Nat)
    (next : Arrival → List Arrival) : Prop :=
  ∀ start, ∀ arrival ∈ next start, subject.Path sets indices start arrival

theorem Leads.iterate {subject : Subject} {sets : List CodeSet} {indices : List Nat}
    {next : Arrival → List Arrival} (leads : Leads subject sets indices next) (count : Nat)
    {arrivals : List Arrival} {arrival : Arrival}
    (member : arrival ∈ iterate next count arrivals) :
    ∃ start ∈ arrivals, subject.Path sets indices start arrival := by
  induction count generalizing arrivals with
  | zero => exact ⟨arrival, member, .here⟩
  | succ count ih =>
    obtain ⟨middle, among, path⟩ := ih member
    obtain ⟨start, given, step⟩ := exists_of_mem_continueWith among
    exact ⟨start, given, (leads start middle step).trans path⟩

namespace Program

/-- A step takes a character of some sets or closes a group with some index, or does neither. -/
def IsWithin (sets : List CodeSet) (indices : List Nat) : Instruction → Prop
  | .chars set _ => set ∈ sets
  | .closeGroup index _ => index ∈ indices
  | _ => True

/-- All steps of a program take characters of some sets and close groups with some indices. -/
def Within (sets : List CodeSet) (indices : List Nat) (program : Program) : Prop :=
  ∀ (place : Nat) (instr : Instruction), program[place]? = some instr → IsWithin sets indices instr

/-- A body adds steps that take characters of some sets and close groups with some indices. -/
def Keeps (sets : List CodeSet) (indices : List Nat) (body : Nat → Program → Nat × Program) :
    Prop :=
  ∀ next program, Within sets indices program → Within sets indices (body next program).2

section Within

variable {sets : List CodeSet} {indices : List Nat} {program : Program}
  {body : Nat → Program → Nat × Program} {next : Nat}

theorem isWithin_choose (greedy : Bool) (inside outside : Nat) :
    IsWithin sets indices (choose greedy inside outside) := by
  cases greedy <;> trivial

theorem Within.add (given : Within sets indices program) {instr : Instruction}
    (within : IsWithin sets indices instr) : Within sets indices (program.add instr).2 := by
  intro place found stands
  simp only [Program.add, Array.getElem?_push] at stands
  split at stands
  · rw [← Option.some.inj stands]
    exact within
  · exact given place found stands

theorem Within.addPlus (given : Within sets indices program) (keeps : Keeps sets indices body)
    (greedy : Bool) : Within sets indices (addPlus body greedy next program).2.2 := by
  have held : IsWithin sets indices .halt := trivial
  intro place found stands
  simp only [Program.addPlus] at stands
  rw [Array.set!_eq_setIfInBounds, Array.getElem?_setIfInBounds] at stands
  split at stands
  · split at stands
    · rw [← Option.some.inj stands]
      exact isWithin_choose ..
    · cases stands
  · exact keeps _ _ (given.add held) place found stands

theorem Within.addCopies (given : Within sets indices program) (keeps : Keeps sets indices body)
    (count : Nat) : Within sets indices (addCopies body count next program).2 := by
  induction count generalizing next program with
  | zero => exact given
  | succ count ih => exact ih (keeps _ _ given)

theorem Within.addOptional (given : Within sets indices program)
    (keeps : Keeps sets indices body) (greedy : Bool) (exit count : Nat) :
    Within sets indices (addOptional body greedy exit count program).2 := by
  induction count with
  | zero => exact given
  | succ count ih => exact (keeps _ _ ih).add (isWithin_choose ..)

theorem Within.addRepetition (given : Within sets indices program)
    (keeps : Keeps sets indices body) (consumes greedy : Bool) (min : Nat) (max : Option Nat) :
    Within sets indices (addRepetition body consumes greedy min max next program).2 := by
  unfold Program.addRepetition
  split
  · exact (given.addOptional keeps greedy next _).addCopies keeps _
  · have loop : Within sets indices (Program.addPlus body greedy next program).2.2 :=
      given.addPlus keeps greedy
    dsimp only
    split
    · split
      · exact loop
      · exact loop.add (isWithin_choose ..)
    · exact loop.addCopies keeps _

theorem keeps_addText {text : List Char} (sub : ∀ c ∈ text, CodeSet.single c.toNat ∈ sets) :
    Keeps sets indices (addText text) := by
  induction text with
  | nil => exact fun _ _ given => given
  | cons c rest ih =>
    intro next program given
    have behind := ih (fun c among => sub c (List.mem_cons_of_mem _ among)) next program given
    exact behind.add (sub c List.mem_cons_self)

/-- The program of a term takes characters of its sets and closes its groups. -/
theorem keeps_addTerm {term : Term} (sub : ∀ set ∈ term.sets, set ∈ sets)
    (within : ∀ index ∈ term.indices, index ∈ indices) : Keeps sets indices (addTerm term) := by
  induction term with
  | empty => exact fun _ _ given => given
  | literal text => exact keeps_addText fun c among => sub _ (List.mem_map_of_mem among)
  | chars alphabet set => exact fun _ _ given => given.add (sub set List.mem_cons_self)
  | look look => exact fun _ _ given => given.add trivial
  | rep min max greedy inner ih =>
    exact fun _ _ given => given.addRepetition (ih sub within) _ greedy min max
  | capture index inner ih =>
    intro next program given
    have inside := ih sub fun index among => within index (List.mem_cons_of_mem _ among)
    have closes : IsWithin sets indices (.closeGroup index next) := within index List.mem_cons_self
    exact (inside _ _ (given.add closes)).add trivial
  | seq first second ih₁ ih₂ =>
    intro next program given
    have front := ih₁ (fun set among => sub set (List.mem_append_left _ among))
      fun index among => within index (List.mem_append_left _ among)
    have back := ih₂ (fun set among => sub set (List.mem_append_right _ among))
      fun index among => within index (List.mem_append_right _ among)
    exact front _ _ (back _ _ given)
  | alt first second ih₁ ih₂ =>
    intro next program given
    have preferred := ih₁ (fun set among => sub set (List.mem_append_left _ among))
      fun index among => within index (List.mem_append_left _ among)
    have other := ih₂ (fun set among => sub set (List.mem_append_right _ among))
      fun index among => within index (List.mem_append_right _ among)
    exact (preferred _ _ (other _ _ given)).add trivial

theorem within_ofTerm (term : Term) : Within term.sets term.indices (ofTerm term).2 := by
  refine keeps_addTerm (fun _ => id) (fun _ => id) _ _ fun place instr stands => ?_
  have halts : instr = .halt := by simpa using Array.mem_of_getElem? stands
  subst halts
  trivial

end Within

/-- A state is reached along a path, and its open groups started where it is or before it. The path
says nothing of groups that are open: they are recorded once they are closed. -/
structure Thread.IsReached (subject : Subject) (sets : List CodeSet) (indices : List Nat)
    (start : Arrival) (thread : Thread) : Prop where
  path : subject.Path sets indices start thread.arrival
  opened : ∀ opened ∈ thread.opened, opened ≤ thread.arrival.position

/-- A step of a program leads on along the path. -/
theorem Thread.IsReached.step {subject : Subject} {sets : List CodeSet} {indices : List Nat}
    {start : Arrival} {thread next : Thread} {instr : Instruction}
    (reached : thread.IsReached subject sets indices start) (within : IsWithin sets indices instr)
    (member : next ∈ successors subject thread instr) :
    next.IsReached subject sets indices start := by
  obtain ⟨path, opened⟩ := reached
  cases instr with
  | halt => cases member
  | chars set place =>
    simp only [successors] at member
    split at member
    · rename_i ahead
      split at member
      · rename_i taken
        cases List.mem_singleton.1 member
        exact ⟨.char path ahead within taken,
          fun start among => Nat.le_succ_of_le (opened start among)⟩
      · cases member
    · cases member
  | look condition place =>
    simp only [successors] at member
    split at member
    · cases List.mem_singleton.1 member
      exact ⟨path, opened⟩
    · cases member
  | fork first second =>
    rcases List.mem_cons.1 member with rfl | member
    · exact ⟨path, opened⟩
    · cases List.mem_singleton.1 member
      exact ⟨path, opened⟩
  | openGroup place =>
    cases List.mem_singleton.1 member
    refine ⟨path, fun start among => ?_⟩
    rcases List.mem_cons.1 among with rfl | among
    · exact Nat.le_refl _
    · exact opened start among
  | closeGroup index place =>
    simp only [successors] at member
    split at member
    · rename_i stack
      rw [stack] at opened
      cases List.mem_singleton.1 member
      exact ⟨.capture path within (opened _ List.mem_cons_self), fun start among =>
        opened start (List.mem_cons_of_mem _ among)⟩
    · cases member

/-- What holds of the states that exploring starts from, and is kept by each step, holds of whatever
is found. -/
theorem forall_mem_explore {program : Program} {subject : Subject} (holds : Thread → Prop)
    {reached : Arrival → Prop} (ends : ∀ thread, holds thread → reached thread.arrival)
    (steps : ∀ thread instr next, holds thread → program[thread.place]? = some instr →
      next ∈ successors subject thread instr → holds next)
    (bound : Nat) {threads : List Thread} {seen : Std.HashSet Nat} {found : List Arrival}
    (given : ∀ thread ∈ threads, holds thread) (done : ∀ arrival ∈ found, reached arrival) :
    ∀ arrival ∈ explore program subject bound threads seen found, reached arrival := by
  induction bound generalizing threads seen found with
  | zero => exact fun arrival member => done arrival (List.mem_reverse.1 member)
  | succ bound ih =>
    cases threads with
    | nil => exact fun arrival member => done arrival (List.mem_reverse.1 member)
    | cons thread threads =>
      have first := given thread List.mem_cons_self
      have rest : ∀ thread ∈ threads, holds thread :=
        fun other member => given other (List.mem_cons_of_mem _ member)
      simp only [explore]
      split
      · exact ih rest done
      · split
        · exact ih rest done
        · refine ih rest fun arrival member => ?_
          rcases List.mem_cons.1 member with rfl | member
          · exact ends thread first
          · exact done arrival member
        · rename_i instr _ stands
          refine ih (fun next member => ?_) done
          rcases List.mem_append.1 member with member | member
          · exact steps thread instr next first stands member
          · exact rest next member

end Program

/-- A loop leads along paths over the sets of its term, capturing by its groups. -/
theorem leads_exploreTerm (subject : Subject) (term : Term) :
    Leads subject term.sets term.indices (exploreTerm subject term) := by
  intro start
  refine Program.forall_mem_explore (Program.Thread.IsReached subject term.sets term.indices start)
    (fun _ reached => reached.path) (fun _ _ _ reached stands member =>
      reached.step (Program.within_ofTerm term _ _ stands) member) _ ?_ nofun
  intro thread member
  cases List.mem_singleton.1 member
  exact ⟨.here, nofun⟩

/-- A repeated set takes a number of characters that is large enough. -/
theorem mem_repeatSet {subject : Subject} {set : CodeSet} {min : Nat} {max : Option Nat}
    {greedy : Bool} {start arrival : Arrival}
    (member : arrival ∈ repeatSet subject set min max greedy start) :
    ∃ count, min ≤ count ∧ start.moveTo (start.position + count) = arrival ∧
      ∀ indices, subject.Path [set] indices start arrival := by
  simp only [repeatSet] at member
  generalize run : runLength subject set _ start.position = length at member
  obtain ⟨count, admitted, rfl⟩ : ∃ count ∈ List.range' min (length + 1 - min),
      start.moveTo (start.position + count) = arrival := by
    split at member
    · exact List.mem_map.1 (List.mem_reverse.1 member)
    · exact List.mem_map.1 member
  obtain ⟨least, most⟩ := List.mem_range'_1.1 admitted
  have within : count ≤ length := by omega
  rw [← run] at within
  exact ⟨count, least, rfl, fun _ => .of_le_runLength within⟩

namespace Term

theorem sets_of_oneChar? {term : Term} {set : CodeSet} (one : term.oneChar? = some set) :
    term.sets = [set] := by
  unfold oneChar? at one
  split at one
  · cases one
    rfl
  · cases one
    rfl
  · cases one

/-- A term leads along paths over the sets that it mentions, capturing by its groups. -/
theorem leads_arrivals (subject : Subject) (term : Term) :
    Leads subject term.sets term.indices (term.arrivals subject) := by
  induction term with
  | empty =>
    intro start arrival member
    cases List.mem_singleton.1 member
    exact .here
  | literal text =>
    intro start arrival member
    simp only [arrivals] at member
    split at member
    · rename_i stands
      cases List.mem_singleton.1 member
      exact .of_textEnd? stands
    · cases member
  | chars alphabet set =>
    intro start arrival member
    simp only [arrivals] at member
    split at member
    · rename_i ahead
      split at member
      · rename_i taken
        cases List.mem_singleton.1 member
        exact .char .here ahead List.mem_cons_self taken
      · cases member
    · cases member
  | look condition =>
    intro start arrival member
    simp only [arrivals] at member
    split at member
    · cases List.mem_singleton.1 member
      exact .here
    · cases member
  | rep min max greedy sub ih =>
    intro start arrival member
    -- Copies that are counted are taken one after another; all others are explored as a loop.
    have copies {middle : Arrival} (among : middle ∈ iterate (sub.arrivals subject) min [start]) :
        subject.Path sub.sets sub.indices start middle := by
      obtain ⟨first, given, path⟩ := ih.iterate min among
      exact List.mem_singleton.1 given ▸ path
    simp only [arrivals] at member
    split at member
    · rename_i one
      obtain ⟨_, _, _, path⟩ := mem_repeatSet member
      rw [sets, sets_of_oneChar? one]
      exact path _
    · split at member
      · exact copies member
      · split at member
        · obtain ⟨middle, among, last⟩ := exists_of_mem_continueWith member
          rcases eq_or_mem_of_mem_preferMore last with rfl | last
          · exact copies among
          · exact (copies among).trans (ih middle arrival last)
        · exact leads_exploreTerm subject (rep ..) start arrival member
    · exact leads_exploreTerm subject (rep ..) start arrival member
  | capture index sub ih =>
    intro start arrival member
    obtain ⟨inner, among, rfl⟩ := List.mem_map.1 member
    have path := ih start inner among
    exact .capture (path.mono (fun _ => id) fun _ => List.mem_cons_of_mem _) List.mem_cons_self
      path.passes.le
  | seq first second ih₁ ih₂ =>
    intro start arrival member
    obtain ⟨middle, among, member⟩ := exists_of_mem_continueWith member
    have front : subject.Path (seq first second).sets (seq first second).indices start middle :=
      (ih₁ start middle among).mono (fun _ => List.mem_append_left _)
        fun _ => List.mem_append_left _
    have back : subject.Path (seq first second).sets (seq first second).indices middle arrival :=
      (ih₂ middle arrival member).mono (fun _ => List.mem_append_right _)
        fun _ => List.mem_append_right _
    exact front.trans back
  | alt first second ih₁ ih₂ =>
    intro start arrival member
    rcases List.mem_append.1 (mem_of_mem_distinct member) with member | member
    · exact (ih₁ start arrival member).mono (fun _ => List.mem_append_left _)
        fun _ => List.mem_append_left _
    · exact (ih₂ start arrival member).mono (fun _ => List.mem_append_right _)
        fun _ => List.mem_append_right _

/-- Every arrival is reached over characters of the sets that the term mentions. -/
theorem arrivals_over (subject : Subject) (term : Term) (start arrival : Arrival)
    (member : arrival ∈ term.arrivals subject start) :
    subject.Over term.sets start.position arrival.position :=
  (leads_arrivals subject term start arrival member).passes

end Term

end SchemaMatch.Regex
