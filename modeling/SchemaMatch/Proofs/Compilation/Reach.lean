import SchemaMatch.Proofs.Compilation.Layout

/-!
# What a compilation looks at

A compilation asks the registry for the capabilities of the schemas that it visits and for no
others. So two registries that agree on these give the same result, and what has compiled has found
all of them registered. The main statements are `Scope.compile_congr` and
`Scope.registered_of_compile`.
-/

namespace SchemaMatch

/-- The schemas that a compilation of a root visits: the root, the schemas of nested fields and the
registered variants of union fields. -/
inductive Scope.Visits (scope : Scope) (root : SchemaId) : SchemaId → Prop
  | root : Visits scope root root
  | nested {id schema : SchemaId} {field : Field} {marker : String} {holder : Holder}
      (visits : Visits scope root id) (member : field ∈ (scope.family.schema id).fields)
      (kind : field.kind = .nested marker holder schema) : Visits scope root schema
  | variant {id schema : SchemaId} {field : Field} {marker : String} {capability : CapabilityId}
      {entry : UnionEntry} (visits : Visits scope root id)
      (member : field ∈ (scope.family.schema id).fields)
      (kind : field.kind = .union marker capability)
      (registered : scope.registry.lookup? capability = some entry)
      (listed : schema ∈ entry.variants) : Visits scope root schema

/-- The capabilities that a compilation of a root asks for. -/
def Scope.Consults (scope : Scope) (root : SchemaId) (capability : CapabilityId) : Prop :=
  ∃ id field marker, scope.Visits root id ∧ field ∈ (scope.family.schema id).fields ∧
    field.kind = .union marker capability

/-- The variants of a capability, if it is registered. -/
def Registry.variants? (registry : Registry) (capability : CapabilityId) :
    Option (List SchemaId) :=
  (registry.lookup? capability).map (·.variants)

namespace Compilation

section Congruence

variable {scope : Scope} {other : Registry} {path : List SchemaId} {child twin : Child}
variable {owner : String}

theorem compileVariants_congr {schemas : List SchemaId}
    (same : ∀ schema ∈ schemas, child schema = twin schema) (slot : Nat) :
    compileVariants child schemas slot = compileVariants twin schemas slot := by
  induction schemas generalizing slot with
  | nil => rfl
  | cons schema rest ih =>
    have others := ih fun schema member => same schema (List.mem_cons_of_mem _ member)
    unfold compileVariants
    rw [same schema List.mem_cons_self]
    cases twin schema slot with
    | error cause => rfl
    | ok compiled => simp only [ok_bind, others]

/-- A field compiles alike where its capability has the same variants, and the schemas that it
holds compile alike. -/
theorem compileField_congr {field : Field}
    (nested : ∀ marker holder schema, field.kind = .nested marker holder schema →
      child schema = twin schema)
    (registered : ∀ marker capability, field.kind = .union marker capability →
      scope.registry.variants? capability = other.variants? capability)
    (variants : ∀ marker capability entry, field.kind = .union marker capability →
      scope.registry.lookup? capability = some entry → ∀ schema ∈ entry.variants,
      child schema = twin schema) (slot : Nat) :
    compileField scope path child owner field slot =
      compileField { scope with registry := other } path twin owner field slot := by
  unfold compileField
  cases kind : field.kind with
  | separator fragment => rfl
  | scalar fragment type => rfl
  | position => rfl
  | nested marker holder schema =>
    simp only [compileNested, nested marker holder schema kind]
  | union marker capability =>
    have same := registered marker capability kind
    simp only [Registry.variants?] at same
    simp only [compileUnion]
    cases found : scope.registry.lookup? capability with
    | none =>
      rw [found, Option.map_none] at same
      rw [Option.map_eq_none_iff.1 same.symm]
    | some entry =>
      rw [found, Option.map_some] at same
      obtain ⟨twin, other, alike⟩ := Option.map_eq_some_iff.1 same.symm
      simp only [other, alike, compileVariants_congr (variants marker capability entry kind found)]

theorem compileFields_congr {declared : List Field}
    (same : ∀ field ∈ declared, ∀ slot, compileField scope path child owner field slot =
      compileField { scope with registry := other } path twin owner field slot) (slot : Nat) :
    compileFields scope path child owner declared slot =
      compileFields { scope with registry := other } path twin owner declared slot := by
  induction declared generalizing slot with
  | nil => rfl
  | cons field rest ih =>
    have others := ih fun field member => same field (List.mem_cons_of_mem _ member)
    unfold compileFields
    rw [same field List.mem_cons_self]
    cases compileField { scope with registry := other } path twin owner field slot with
    | error cause => rfl
    | ok compiled => simp only [ok_bind, others]

/-- A schema that is visited compiles alike under registries that agree on what is asked for. -/
theorem compileSchema_congr {root : SchemaId}
    (agree : ∀ capability, scope.Consults root capability →
      scope.registry.variants? capability = other.variants? capability)
    (levels : Nat) (path : List SchemaId) {id : SchemaId} (visits : scope.Visits root id) :
    compileSchema scope levels path id =
      compileSchema { scope with registry := other } levels path id := by
  induction levels generalizing path id with
  | zero => rfl
  | succ levels ih =>
    funext slot
    have fields (slot : Nat) :
        compileFields scope (id :: path) (compileSchema scope levels (id :: path))
            (scope.family.schema id).name (scope.family.schema id).fields slot =
          compileFields { scope with registry := other } (id :: path)
            (compileSchema { scope with registry := other } levels (id :: path))
            (scope.family.schema id).name (scope.family.schema id).fields slot :=
      compileFields_congr (fun field member => compileField_congr
        (fun _ _ _ kind => ih (id :: path) (.nested visits member kind))
        (fun marker capability kind => agree capability ⟨id, field, marker, visits, member, kind⟩)
        (fun _ _ _ kind found schema listed =>
          ih (id :: path) (.variant visits member kind found listed))) slot
    simp only [compileSchema, fields]

end Congruence

section Registered

variable {scope : Scope}

/-- A schema has been laid out somewhere. -/
def IsLaid (scope : Scope) (id : SchemaId) : Prop :=
  ∃ slot stencil expr next, Laid scope slot (.record id stencil expr) next

/-- What a field refers to has been found, and the schemas that it holds have been laid out. -/
def IsFound (scope : Scope) (field : Field) : Prop :=
  match field.kind with
  | .nested _ _ schema => IsLaid scope schema
  | .union _ capability => ∃ entry, scope.registry.lookup? capability = some entry ∧
      ∀ schema ∈ entry.variants, IsLaid scope schema
  | _ => True

def Part.IsFound (scope : Scope) : Part → Prop
  | record id _ _ => ∀ field ∈ (scope.family.schema id).fields, Compilation.IsFound scope field
  | fields declared _ _ => ∀ field ∈ declared, Compilation.IsFound scope field
  | variants schemas _ _ => ∀ schema ∈ schemas, IsLaid scope schema

theorem isFound_of_matchesNothing {field : Field} (skips : field.matchesNothing = true) :
    IsFound scope field := by
  cases kind : field.kind with
  | nested marker holder schema => simp [Field.matchesNothing, kind] at skips
  | union marker capability => simp [Field.matchesNothing, kind] at skips
  | _ => simp only [IsFound, kind]

theorem Laid.isFound {slot next : Nat} {part : Part} (laid : Laid scope slot part next) :
    part.IsFound scope := by
  have further {field : Field} {declared : List Field} (here : Compilation.IsFound scope field)
      (rest : ∀ field ∈ declared, Compilation.IsFound scope field) :
      ∀ other ∈ field :: declared, Compilation.IsFound scope other := by
    intro other member
    rcases List.mem_cons.1 member with rfl | member
    · exact here
    · exact rest other member
  induction laid with
  | record fields ih => exact ih
  | noFields => exact nofun
  | skipped skips rest ih => exact further (isFound_of_matchesNothing skips) ih
  | separator matched kind normal rest ih =>
    exact further (by simp only [Compilation.IsFound, kind]) ih
  | scalar matched kind normal rest ih =>
    exact further (by simp only [Compilation.IsFound, kind]) ih
  | position kind rest ih => exact further (by simp only [Compilation.IsFound, kind]) ih
  | nested kind means fits inside rest held others =>
    refine further ?_ others
    simp only [Compilation.IsFound, kind]
    exact ⟨_, _, _, _, inside⟩
  | union kind means registered inside rest held others =>
    refine further ?_ others
    simp only [Compilation.IsFound, kind]
    exact ⟨_, registered, held⟩
  | noVariants => exact nofun
  | variant first rest held others =>
    intro schema member
    rcases List.mem_cons.1 member with rfl | member
    · exact ⟨_, _, _, _, first⟩
    · exact others schema member

theorem IsLaid.isFound {id : SchemaId} (laid : IsLaid scope id) {field : Field}
    (member : field ∈ (scope.family.schema id).fields) : Compilation.IsFound scope field := by
  obtain ⟨_, _, _, _, layout⟩ := laid
  exact layout.isFound field member

theorem isLaid_of_visits {root id : SchemaId} (laid : IsLaid scope root)
    (visits : scope.Visits root id) : IsLaid scope id := by
  induction visits with
  | root => exact laid
  | nested visits member kind ih =>
    have found := ih.isFound member
    simpa only [Compilation.IsFound, kind] using found
  | variant visits member kind registered listed ih =>
    have found := ih.isFound member
    simp only [Compilation.IsFound, kind] at found
    obtain ⟨entry, same, laid⟩ := found
    rw [registered] at same
    cases same
    exact laid _ listed

end Registered

end Compilation

namespace Scope

variable {scope : Scope} {root : SchemaId}

/-- Registries that agree on the variants of what a compilation asks for give the same result. -/
theorem compile_congr {other : Registry}
    (agree : ∀ capability, scope.Consults root capability →
      scope.registry.variants? capability = other.variants? capability) :
    scope.compile root = { scope with registry := other }.compile root := by
  have same := Compilation.compileSchema_congr agree (Compilation.maxPath scope) [] .root
  unfold Scope.compile
  rw [same]
  rfl

/-- A compilation that succeeds has found everything registered that it asked for. -/
theorem registered_of_compile {stencil : Stencil} {expr : Expr}
    (success : scope.compile root = .ok (stencil, expr)) {capability : CapabilityId}
    (consults : scope.Consults root capability) :
    ∃ entry, scope.registry.lookup? capability = some entry := by
  obtain ⟨next, layout⟩ := laid_of_compile success
  obtain ⟨id, field, marker, visits, member, kind⟩ := consults
  have laid := Compilation.isLaid_of_visits ⟨0, stencil, expr, next, layout⟩ visits
  have found := laid.isFound member
  simp only [Compilation.IsFound, kind] at found
  obtain ⟨entry, registered, _⟩ := found
  exact ⟨entry, registered⟩

theorem compile_of_grown {other : Registry} {stencil : Stencil} {expr : Expr}
    (grown : ∀ capability entry, scope.registry.lookup? capability = some entry →
      other.lookup? capability = some entry)
    (success : scope.compile root = .ok (stencil, expr)) :
    { scope with registry := other }.compile root = .ok (stencil, expr) := by
  rw [← success]
  refine (compile_congr fun capability consults => ?_).symm
  obtain ⟨entry, registered⟩ := registered_of_compile success consults
  rw [Registry.variants?, Registry.variants?, registered, grown capability entry registered]

end Scope

end SchemaMatch
