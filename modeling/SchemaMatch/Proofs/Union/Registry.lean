import SchemaMatch.Union.Registry

/-!
# Reachable registries

A registry changes by registrations alone, so what every registration keeps holds of each registry
that there can be. In all of them each capability has a variant.
-/

namespace SchemaMatch.Registry

/-- A registry that registrations lead to, one after another. -/
inductive Reachable : Registry → Prop
  | empty : Reachable .empty
  | register {family : Family} {registry result : Registry} {capability : CapabilityId}
      {supply : Supply} (before : Reachable registry)
      (success : register family registry capability supply = .ok result) : Reachable result

theorem entries_of_register {family : Family} {registry result : Registry}
    {capability : CapabilityId} {supply : Supply}
    (success : register family registry capability supply = .ok result) :
    ∃ variants, variants ≠ [] ∧ result.entries =
      registry.entries ++ [⟨capability, family.capabilityName capability, variants⟩] := by
  simp only [register] at success
  split at success
  · cases success
  · split at success
    · cases success
    · cases success
    · rename_i variants given _
      rw [← Except.ok.inj success]
      exact ⟨variants, given, rfl⟩

theorem lookup?_of_register {family : Family} {registry result : Registry}
    {capability other : CapabilityId} {supply : Supply} {entry : UnionEntry}
    (success : register family registry capability supply = .ok result)
    (found : registry.lookup? other = some entry) : result.lookup? other = some entry := by
  obtain ⟨variants, _, entries⟩ := entries_of_register success
  unfold lookup? at found ⊢
  rw [entries, List.find?_append, found, Option.some_or]

namespace Reachable

variable {registry : Registry} {entry : UnionEntry}

theorem variants_ne_nil (reachable : Reachable registry) (member : entry ∈ registry.entries) :
    entry.variants ≠ [] := by
  induction reachable with
  | empty => cases member
  | register before success ih =>
    obtain ⟨variants, given, entries⟩ := entries_of_register success
    rw [entries] at member
    rcases List.mem_append.1 member with member | member
    · exact ih member
    · cases List.mem_singleton.1 member
      exact given

theorem variants_ne_nil_of_lookup? (reachable : Reachable registry) {capability : CapabilityId}
    (found : registry.lookup? capability = some entry) : entry.variants ≠ [] :=
  reachable.variants_ne_nil (List.mem_of_find?_eq_some found)

end Reachable

end SchemaMatch.Registry
