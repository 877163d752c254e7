import SchemaMatch.Proofs.Compilation.Layout

/-!
# How the first field is laid out

Where fields are laid out, the kind of the first one says what stands for it and from which slot on
the others are laid out. There is one lemma for each kind.
-/

namespace SchemaMatch.Compilation

variable {scope : Scope} {slot next : Nat} {field : Field} {declared : List Field}
variable {stencils : List FieldStencil} {exprs : List Expr}

theorem Laid.of_skipped (laid : Laid scope slot (.fields (field :: declared) stencils exprs) next)
    (skips : field.matchesNothing = true) :
    Laid scope slot (.fields declared stencils exprs) next := by
  cases laid with
  | skipped _ rest => exact rest
  | separator matched => simp [skips] at matched
  | scalar matched => simp [skips] at matched
  | position kind => simp [Field.matchesNothing, kind] at skips
  | nested kind => simp [Field.matchesNothing, kind] at skips
  | union kind => simp [Field.matchesNothing, kind] at skips

theorem Laid.of_separator {fragment : String}
    (laid : Laid scope slot (.fields (field :: declared) stencils exprs) next)
    (matched : field.matchesNothing = false) (kind : field.kind = .separator fragment) :
    ∃ text others parts, Fragment.normalize scope.options fragment = .ok text ∧
      stencils = .separator :: others ∧ exprs = .fragment text :: parts ∧
      Laid scope slot (.fields declared others parts) next := by
  cases laid with
  | separator _ same normal rest =>
    cases kind.symm.trans same
    exact ⟨_, _, _, normal, rfl, rfl, rest⟩
  | skipped skips => simp [skips] at matched
  | scalar _ same => cases kind.symm.trans same
  | position same => cases kind.symm.trans same
  | nested same => cases kind.symm.trans same
  | union same => cases kind.symm.trans same

theorem Laid.of_scalar {fragment : String} {type : ScalarType}
    (laid : Laid scope slot (.fields (field :: declared) stencils exprs) next)
    (matched : field.matchesNothing = false) (kind : field.kind = .scalar fragment type) :
    ∃ representation text others parts, type = .storable representation ∧
      Fragment.normalize scope.options fragment = .ok text ∧
      stencils = .scalar field.name slot field.dest representation :: others ∧
      exprs = .capture slot field.name (.fragment text) :: parts ∧
      Laid scope (slot + 1) (.fields declared others parts) next := by
  cases laid with
  | scalar _ same normal rest =>
    cases kind.symm.trans same
    exact ⟨_, _, _, _, rfl, normal, rfl, rfl, rest⟩
  | skipped skips => simp [skips] at matched
  | separator _ same => cases kind.symm.trans same
  | position same => cases kind.symm.trans same
  | nested same => cases kind.symm.trans same
  | union same => cases kind.symm.trans same

theorem Laid.of_position
    (laid : Laid scope slot (.fields (field :: declared) stencils exprs) next)
    (kind : field.kind = .position) :
    ∃ others parts, stencils = .position field.name slot field.dest :: others ∧
      exprs = .capture slot field.name Expr.empty :: parts ∧
      Laid scope (slot + 1) (.fields declared others parts) next := by
  cases laid with
  | position _ rest => exact ⟨_, _, rfl, rfl, rest⟩
  | skipped skips => simp [Field.matchesNothing, kind] at skips
  | separator _ same => cases kind.symm.trans same
  | scalar _ same => cases kind.symm.trans same
  | nested same => cases kind.symm.trans same
  | union same => cases kind.symm.trans same

theorem Laid.of_nested {marker : String} {holder : Holder} {schema : SchemaId}
    (laid : Laid scope slot (.fields (field :: declared) stencils exprs) next)
    (kind : field.kind = .nested marker holder schema) :
    ∃ cardinality child expr middle others parts,
      Cardinality.ofMarker? marker = some cardinality ∧
      Laid scope (slot + 1) (.record schema child expr) middle ∧
      stencils = .nested field.name slot field.dest holder child :: others ∧
      exprs = .capture slot field.name (withCardinality cardinality expr) :: parts ∧
      Laid scope middle (.fields declared others parts) next := by
  cases laid with
  | nested same means _ inside rest =>
    cases kind.symm.trans same
    exact ⟨_, _, _, _, _, _, means, inside, rfl, rfl, rest⟩
  | skipped skips => simp [Field.matchesNothing, kind] at skips
  | separator _ same => cases kind.symm.trans same
  | scalar _ same => cases kind.symm.trans same
  | position same => cases kind.symm.trans same
  | union same => cases kind.symm.trans same

theorem Laid.of_union {marker : String} {capability : CapabilityId}
    (laid : Laid scope slot (.fields (field :: declared) stencils exprs) next)
    (kind : field.kind = .union marker capability) :
    ∃ cardinality entry variants branches middle others parts,
      Cardinality.ofMarker? marker = some cardinality ∧
      scope.registry.lookup? capability = some entry ∧
      Laid scope (slot + 1) (.variants entry.variants variants branches) middle ∧
      stencils = .union field.name slot field.dest capability
        (scope.family.capabilityName capability) variants :: others ∧
      exprs = .capture slot field.name
        (withCardinality cardinality (.alternation branches)) :: parts ∧
      Laid scope middle (.fields declared others parts) next := by
  cases laid with
  | union same means registered inside rest =>
    cases kind.symm.trans same
    exact ⟨_, _, _, _, _, _, _, means, registered, inside, rfl, rfl, rest⟩
  | skipped skips => simp [Field.matchesNothing, kind] at skips
  | separator _ same => cases kind.symm.trans same
  | scalar _ same => cases kind.symm.trans same
  | position same => cases kind.symm.trans same
  | nested same => cases kind.symm.trans same

end SchemaMatch.Compilation
