/-!
# Sets of positions

A set of positions is a number whose bits tell its members. `has` is membership, and each operation
is pinned down by what it does to membership.
-/

namespace SchemaMatch.Regex

/-- A set of positions, by bits. -/
structure PositionSet where
  bits : Nat
  deriving DecidableEq, Repr

namespace PositionSet

def has (set : PositionSet) (position : Nat) : Bool := set.bits.testBit position

def upTo (last : Nat) : PositionSet := ⟨Nat.pow 2 (last + 1) - 1⟩

/-- The positions of either set. -/
def union (a b : PositionSet) : PositionSet := ⟨a.bits ||| b.bits⟩

def inter (a b : PositionSet) : PositionSet := ⟨a.bits &&& b.bits⟩

def before (set : PositionSet) : PositionSet := ⟨set.bits >>> 1⟩

/-- The bits of a number of positions from one on, last ones first. Whether a position is in the
set may depend on whether the one after it is. -/
def bitsFrom (holds : Nat → Bool → Bool) : Nat → Nat → Nat
  | _, 0 => 0
  | position, count + 1 =>
    let later := bitsFrom holds (position + 1) count
    2 * later + (holds position (later.testBit 0)).toNat

def filterUpTo (last : Nat) (holds : Nat → Bool) : PositionSet :=
  ⟨bitsFrom (fun position _ => holds position) 0 (last + 1)⟩

def leadingTo (last : Nat) (targets through : PositionSet) : PositionSet :=
  ⟨bitsFrom (fun position next => targets.has position || (next && through.has position)) 0
    (last + 1)⟩

@[simp] theorem has_upTo (last position : Nat) :
    (upTo last).has position = decide (position ≤ last) := by
  simp only [has, upTo, Nat.pow_eq, Nat.testBit_two_pow_sub_one, Nat.lt_succ_iff]

@[simp] theorem has_union (a b : PositionSet) (position : Nat) :
    (a.union b).has position = (a.has position || b.has position) := by
  simp [has, union]

@[simp] theorem has_inter (a b : PositionSet) (position : Nat) :
    (a.inter b).has position = (a.has position && b.has position) := by
  simp [has, inter]

@[simp] theorem has_before (set : PositionSet) (position : Nat) :
    set.before.has position = set.has (position + 1) := by
  simp [has, before, Nat.testBit_shiftRight, Nat.add_comm]

theorem testBit_bitsFrom (holds : Nat → Bool → Bool) (count first position : Nat) :
    (bitsFrom holds first count).testBit position =
      (decide (position < count) &&
        holds (first + position) ((bitsFrom holds first count).testBit (position + 1))) := by
  induction count generalizing first position with
  | zero => simp [bitsFrom]
  | succ count ih =>
    have half (flag : Bool) : (2 * bitsFrom holds (first + 1) count + flag.toNat) / 2 =
        bitsFrom holds (first + 1) count := by
      have bound := Bool.toNat_le flag
      omega
    cases position with
    | zero =>
      rw [bitsFrom]
      simp only [Nat.testBit_succ, half, Nat.add_zero]
      cases holds first ((bitsFrom holds (first + 1) count).testBit 0) <;>
        simp [Nat.testBit_zero]
    | succ position =>
      rw [bitsFrom]
      simp only [Nat.testBit_succ, half]
      rw [ih]
      have shift : first + 1 + position = first + (position + 1) := by omega
      simp [shift, Nat.testBit_succ]

@[simp] theorem has_filterUpTo (last position : Nat) (holds : Nat → Bool) :
    (filterUpTo last holds).has position = (decide (position ≤ last) && holds position) := by
  rw [has, filterUpTo, testBit_bitsFrom, Nat.zero_add]
  simp only [Nat.lt_succ_iff]

theorem has_leadingTo (last position : Nat) (targets through : PositionSet) :
    (leadingTo last targets through).has position =
      (decide (position ≤ last) && (targets.has position ||
        ((leadingTo last targets through).has (position + 1) && through.has position))) := by
  rw [has, leadingTo, testBit_bitsFrom, Nat.zero_add]
  simp only [has, Nat.lt_succ_iff]

end PositionSet

end SchemaMatch.Regex
