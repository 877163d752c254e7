import SchemaMatch.Proofs.Regex.Passage

/-!
# Equal preferences

What follows an arrival depends on its position only. So of two lists of arrivals it matters which
arrival comes first among those from which the rest can go on, and no more: they are the same choice
if every such rest picks the same arrival from both. Dropping an arrival at a position that came up
before makes no difference.
-/

namespace SchemaMatch.Regex

namespace Arrival

/-- A rest that can go on from an arrival or not, as its position says. -/
def Follows (rest : Arrival → Option Arrival) : Prop :=
  ∀ a b, a.position = b.position → (rest a).isSome = (rest b).isSome

/-- A way to go on that leads to the same positions from the same position. -/
def ByPosition (next : Arrival → List Arrival) : Prop :=
  ∀ a b, a.position = b.position → (next a).map position = (next b).map position

variable {rest : Arrival → Option Arrival} {next : Arrival → List Arrival}

theorem follows_some : Follows some := fun _ _ _ => rfl

theorem Follows.eq_none (follows : Follows rest) {a b : Arrival} (same : a.position = b.position)
    (none : rest a = none) : rest b = .none := by
  have alike := follows a b same
  rw [none, Option.isSome_none] at alike
  exact Option.isSome_eq_false_iff.1 alike.symm |> Option.isNone_iff_eq_none.1

theorem Follows.findSome? (follows : Follows rest) (byPosition : ByPosition next) :
    Follows fun arrival => (next arrival).findSome? rest := by
  have half {a b : Arrival} (same : a.position = b.position)
      (found : ((next a).findSome? rest).isSome) : ((next b).findSome? rest).isSome := by
    obtain ⟨arrival, member, goes⟩ := List.findSome?_isSome_iff.1 found
    have there : arrival.position ∈ (next b).map position := by
      rw [← byPosition a b same]
      exact List.mem_map_of_mem member
    obtain ⟨other, among, equal⟩ := List.mem_map.1 there
    exact List.findSome?_isSome_iff.2 ⟨other, among, (follows other arrival equal).trans goes⟩
  intro a b same
  exact Bool.eq_iff_iff.2 ⟨half same, half same.symm⟩

end Arrival

open Arrival (Follows ByPosition)

/-- Every rest picks the same arrival from both lists. -/
structure SameChoice (one other : List Arrival) : Prop where
  findSome? : ∀ rest, Follows rest → one.findSome? rest = other.findSome? rest

/-- Picking after going on from each arrival is picking among what each of them picks. -/
theorem findSome?_flatMap (rest : Arrival → Option Arrival) (next : Arrival → List Arrival)
    (arrivals : List Arrival) : (arrivals.flatMap next).findSome? rest =
      arrivals.findSome? fun arrival => (next arrival).findSome? rest := by
  induction arrivals with
  | nil => rfl
  | cons first others ih =>
    rw [List.flatMap_cons, List.findSome?_append, ih, List.findSome?_cons]
    cases (next first).findSome? rest <;> rfl

namespace SameChoice

variable {one other third : List Arrival}

theorem refl (arrivals : List Arrival) : SameChoice arrivals arrivals := ⟨fun _ _ => rfl⟩

theorem symm (same : SameChoice one other) : SameChoice other one :=
  ⟨fun rest follows => (same.findSome? rest follows).symm⟩

theorem trans (same : SameChoice one other) (also : SameChoice other third) :
    SameChoice one third :=
  ⟨fun rest follows => (same.findSome? rest follows).trans (also.findSome? rest follows)⟩

/-- The same choice has the same preferred arrival. -/
theorem head? (same : SameChoice one other) : one.head? = other.head? := by
  have first (arrivals : List Arrival) : arrivals.findSome? some = arrivals.head? := by
    cases arrivals <;> rfl
  rw [← first, ← first, same.findSome? some Arrival.follows_some]

theorem append {after behind : List Arrival} (fronts : SameChoice one other)
    (backs : SameChoice after behind) : SameChoice (one ++ after) (other ++ behind) := by
  refine ⟨fun rest follows => ?_⟩
  rw [List.findSome?_append, List.findSome?_append, fronts.findSome? rest follows,
    backs.findSome? rest follows]

/-- Going on in the same way from the same choice is the same choice. -/
theorem flatMap {next goOn : Arrival → List Arrival} (same : SameChoice one other)
    (alike : ∀ arrival, SameChoice (next arrival) (goOn arrival)) (byPosition : ByPosition goOn) :
    SameChoice (one.flatMap next) (other.flatMap goOn) := by
  refine ⟨fun rest follows => ?_⟩
  have equal : (fun arrival => (next arrival).findSome? rest) =
      fun arrival => (goOn arrival).findSome? rest :=
    funext fun arrival => (alike arrival).findSome? rest follows
  rw [findSome?_flatMap, findSome?_flatMap, equal]
  exact same.findSome? _ (follows.findSome? byPosition)

/-- What is recorded on the way changes no choice. -/
theorem map {change : Arrival → Arrival} (same : SameChoice one other)
    (stays : ∀ arrival, (change arrival).position = arrival.position) :
    SameChoice (one.map change) (other.map change) := by
  refine ⟨fun rest follows => ?_⟩
  rw [List.findSome?_map, List.findSome?_map]
  refine same.findSome? _ fun a b equal => follows _ _ ?_
  rw [stays, stays, equal]

theorem findSome?_distinctFrom {rest : Arrival → Option Arrival} (follows : Follows rest)
    (seen : Std.HashSet Nat) (arrivals : List Arrival)
    (ends : ∀ arrival, seen.contains arrival.position = true → rest arrival = none) :
    (distinctFrom seen arrivals).findSome? rest = arrivals.findSome? rest := by
  induction arrivals generalizing seen with
  | nil => rfl
  | cons first others ih =>
    rw [distinctFrom]
    split
    · rename_i among
      rw [ih seen ends, List.findSome?_cons, ends first among]
    · rw [List.findSome?_cons, List.findSome?_cons]
      cases goes : rest first with
      | some found => rfl
      | none =>
        refine ih _ fun arrival among => ?_
        rw [Std.HashSet.contains_insert, Bool.or_eq_true, beq_iff_eq] at among
        rcases among with same | among
        · exact follows.eq_none same goes
        · exact ends arrival among

theorem distinct (arrivals : List Arrival) : SameChoice (distinct arrivals) arrivals := by
  refine ⟨fun rest follows => ?_⟩
  unfold Regex.distinct
  split
  · rfl
  · rfl
  · refine findSome?_distinctFrom follows ∅ arrivals fun arrival among => ?_
    rw [Std.HashSet.contains_empty] at among
    cases among

theorem continueWith (next : Arrival → List Arrival) (arrivals : List Arrival) :
    SameChoice (continueWith next arrivals) (arrivals.flatMap next) :=
  distinct _

end SameChoice

end SchemaMatch.Regex
