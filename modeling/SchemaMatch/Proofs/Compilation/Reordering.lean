import SchemaMatch.Proofs.Compilation.Coverage

/-!
# Variants in another order

Two registries may list the same variants of the same capabilities in different orders. Then what is
visited on the way from a root is the same, so that a root compiles under both or under neither, and
schemas cover the same stretches of every text.
-/

namespace SchemaMatch

/-- Another registry has the same capabilities, with the same variants but for their order. -/
def Registry.IsReordering (registry other : Registry) : Prop :=
  ∀ capability, Option.Rel List.Perm (registry.variants? capability) (other.variants? capability)

theorem Registry.IsReordering.symm {registry other : Registry}
    (reordering : registry.IsReordering other) : other.IsReordering registry := by
  intro capability
  have related := reordering capability
  generalize registry.variants? capability = listed at related ⊢
  generalize other.variants? capability = again at related ⊢
  cases related with
  | none => exact .none
  | some perm => exact .some perm.symm

theorem Registry.IsReordering.lookup? {registry other : Registry} {capability : CapabilityId}
    {entry : UnionEntry} (reordering : registry.IsReordering other)
    (registered : registry.lookup? capability = some entry) :
    ∃ twin, other.lookup? capability = some twin ∧
      ∀ schema, schema ∈ twin.variants ↔ schema ∈ entry.variants := by
  have related := reordering capability
  rw [Registry.variants?, Registry.variants?, registered] at related
  cases found : other.lookup? capability with
  | none =>
    rw [found] at related
    cases related
  | some twin =>
    rw [found] at related
    cases related with
    | some perm => exact ⟨twin, rfl, fun schema => perm.mem_iff.symm⟩

namespace Scope

variable {scope : Scope} {other : Registry} {root id : SchemaId}

/-! ### What is visited -/

section Visits

variable (reordering : scope.registry.IsReordering other)

include reordering

theorem Refers.reordered {field : Field} {schema : SchemaId} (refers : scope.Refers field schema) :
    { scope with registry := other }.Refers field schema := by
  cases kind : field.kind with
  | union marker capability =>
    simp only [Refers, kind] at refers ⊢
    obtain ⟨entry, registered, listed⟩ := refers
    obtain ⟨twin, found, same⟩ := reordering.lookup? registered
    exact ⟨twin, found, (same schema).2 listed⟩
  | nested marker holder held => simpa only [Refers, kind] using refers
  | _ => simp only [Refers, kind] at refers

theorem Visits.reordered (visits : scope.Visits root id) :
    { scope with registry := other }.Visits root id := by
  induction visits with
  | root => exact .root
  | nested _ member kind ih => exact .nested ih member kind
  | variant _ member kind registered listed ih =>
    obtain ⟨twin, found, same⟩ := reordering.lookup? registered
    exact .variant ih member kind found ((same _).2 listed)

theorem Arrives.reordered {path : List SchemaId} (arrives : scope.Arrives root path id) :
    { scope with registry := other }.Arrives root path id := by
  induction arrives with
  | root => exact .root
  | nested _ member kind ih => exact .nested ih member kind
  | variant _ member kind registered listed ih =>
    obtain ⟨twin, found, same⟩ := reordering.lookup? registered
    exact .variant ih member kind found ((same _).2 listed)

theorem Accepts.reordered {path : List SchemaId} {field : Field}
    (valid : scope.Accepts path field) : { scope with registry := other }.Accepts path field := by
  cases kind : field.kind with
  | union marker capability =>
    simp only [Accepts, kind] at valid ⊢
    obtain ⟨means, entry, registered, fresh⟩ := valid
    obtain ⟨twin, found, same⟩ := reordering.lookup? registered
    exact ⟨means, twin, found, fun variant listed => fresh variant ((same variant).1 listed)⟩
  | position => simp only [Accepts, kind]
  | _ => simpa only [Accepts, kind] using valid

theorem Prints.reordered {text : String} (prints : scope.Prints root text) :
    { scope with registry := other }.Prints root text := by
  obtain ⟨id, visits, own⟩ := prints
  exact ⟨id, visits.reordered reordering, own⟩

end Visits

/-! ### What compiles -/

theorem exists_ok_iff_isFaultless :
    (∃ part, scope.compile root = .ok part) ↔ scope.IsFaultless (.schema [] root) := by
  rw [← failure?_eq_none_iff, (finds_compile scope root).eq_none_iff]

theorem IsFaultless.reordered (reordering : scope.registry.IsReordering other)
    (faultless : scope.IsFaultless (.schema [] root)) :
    { scope with registry := other }.IsFaultless (.schema [] root) := by
  rw [isFaultless_iff_accepts] at faultless ⊢
  intro path id arrives field member
  have before : scope.Arrives root path id := arrives.reordered reordering.symm
  exact (faultless path id before field member).reordered reordering

theorem compiles_iff_of_reordering (reordering : scope.registry.IsReordering other) :
    (∃ part, scope.compile root = .ok part) ↔
      ∃ part, { scope with registry := other }.compile root = .ok part := by
  rw [exists_ok_iff_isFaultless, exists_ok_iff_isFaultless]
  exact ⟨.reordered reordering,
    @IsFaultless.reordered { scope with registry := other } scope.registry root reordering.symm⟩

/-! ### What is covered -/

variable {subject : Regex.Subject} {coverer : Coverer} {start stop : Nat}

theorem Covers.reordered (reordering : scope.registry.IsReordering other)
    (covers : scope.Covers subject coverer start stop) :
    { scope with registry := other }.Covers subject coverer start stop := by
  induction covers with
  | record _ ih => exact .record ih
  | noFields => exact .noFields
  | cons _ _ first rest => exact .cons first rest
  | skipped skips => exact .skipped skips
  | fragment given normal matched ends => exact .fragment given normal matched ends
  | position kind => exact .position kind
  | held refers _ ih => exact .held (refers.reordered reordering) ih
  | absent optional => exact .absent optional

theorem covers_iff_of_reordering (reordering : scope.registry.IsReordering other) :
    { scope with registry := other }.Covers subject coverer start stop ↔
      scope.Covers subject coverer start stop :=
  ⟨@Covers.reordered { scope with registry := other } scope.registry _ _ _ _ reordering.symm,
    .reordered reordering⟩

end Scope

end SchemaMatch
