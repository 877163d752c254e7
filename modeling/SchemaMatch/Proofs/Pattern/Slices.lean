import SchemaMatch.Proofs.Pattern.Fit
import SchemaMatch.Proofs.Text.Boundary

/-!
# Matches are cut from the input

Whatever a pattern is, its matches go forward and so do their groups: no group ends before it
started. As positions stand between characters, every region of a match is a stretch of the input.
The main statement is `Pattern.isStretch_of_match`; it needs nothing of the fragments.
-/

namespace SchemaMatch

namespace Regex

theorem isStretch_region {text : String} {start stop : Nat} (ordered : start ≤ stop) :
    Text.IsStretch text (region (.ofString text) start stop) :=
  (Text.slice?_eq_some_iff.1 (Text.slice?_byteOffset ordered)).1

theorem isStretch_of_mem_regions {regex : Regex} {text : String} {found : Nat × Arrival}
    (matched : regex.term.IsMatch (.ofString text) found) {region : Region}
    (member : some region ∈ regex.regions (.ofString text) found) :
    Text.IsStretch text region := by
  have among := List.mem_of_mem_head? (Option.mem_def.2 matched.preferred)
  have path := regex.term.leads_arrivals _ _ _ among
  have ordered : Expr.Ordered found.2 := path.start_le_stop nofun
  rcases List.mem_cons.1 member with whole | member
  · cases whole
    exact isStretch_region path.passes.le
  · obtain ⟨index, _, held⟩ := List.mem_map.1 member
    obtain ⟨captured, given, rfl⟩ := Option.map_eq_some_iff.1 held
    exact isStretch_region (ordered captured (List.mem_of_find?_eq_some given))

end Regex

/-- The regions of the matches of an input, of the leftmost one and of those that follow each other,
are stretches of the input. -/
theorem Pattern.isStretch_of_match {pattern : Pattern} {input : String} {m : Match}
    (found : pattern.match? input = some m ∨ m ∈ pattern.allMatches input) (slot : Nat)
    (region : Region) (took : m.region? slot = some region) : Text.IsStretch m.input region := by
  obtain ⟨found, matched, rfl⟩ := exists_isMatch found
  exact Regex.isStretch_of_mem_regions matched
    (List.mem_of_getElem? (Option.join_eq_some_iff.1 took))

end SchemaMatch
