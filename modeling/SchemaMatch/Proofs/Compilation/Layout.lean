import SchemaMatch.Compilation
import SchemaMatch.Proofs.Success

/-!
# Layouts

What the compiler makes of a schema is laid out from one slot up to another. The relation `Laid`
says which stencils and trees stand for which schemas, fields and variants there, without the path
and the bound that the compiler carries. The main statement is `Scope.laid_of_compile`: whatever
compiles is laid out from slot zero on.
-/

namespace SchemaMatch

/-- Whether a field is there for its name only: it is declared with the empty fragment. -/
def Field.matchesNothing (field : Field) : Bool :=
  match field.kind with
  | .separator fragment => fragment.isEmpty
  | .scalar fragment _ => fragment.isEmpty
  | _ => false

namespace Compilation

/-- What is laid out at one time. -/
inductive Part
  /-- A record of a schema. -/
  | record (schema : SchemaId) (stencil : Stencil) (expr : Expr)
  /-- Declared fields, one after another. -/
  | fields (declared : List Field) (stencils : List FieldStencil) (exprs : List Expr)
  /-- Variants, one after another. -/
  | variants (schemas : List SchemaId) (stencils : List Stencil) (exprs : List Expr)

/-- A part is laid out from one slot up to another, which it does not include. -/
inductive Laid (scope : Scope) : Nat → Part → Nat → Prop
  | record {slot next : Nat} {id : SchemaId} {stencils : List FieldStencil} {exprs : List Expr}
      (fields : Laid scope (slot + 1)
        (.fields (scope.family.schema id).fields stencils exprs) next) :
      Laid scope slot
        (.record id
          (.mk id (scope.family.schema id).name (scope.family.schema id).typeName slot stencils)
          (.capture slot (scope.family.schema id).name (.concat exprs))) next
  | noFields {slot : Nat} : Laid scope slot (.fields [] [] []) slot
  | skipped {slot next : Nat} {field : Field} {declared : List Field}
      {stencils : List FieldStencil} {exprs : List Expr}
      (skips : field.matchesNothing = true)
      (rest : Laid scope slot (.fields declared stencils exprs) next) :
      Laid scope slot (.fields (field :: declared) stencils exprs) next
  | separator {slot next : Nat} {field : Field} {declared : List Field}
      {stencils : List FieldStencil} {exprs : List Expr} {fragment text : String}
      (matched : field.matchesNothing = false)
      (kind : field.kind = .separator fragment)
      (normal : Fragment.normalize scope.options fragment = .ok text)
      (rest : Laid scope slot (.fields declared stencils exprs) next) :
      Laid scope slot
        (.fields (field :: declared) (.separator :: stencils) (.fragment text :: exprs)) next
  | scalar {slot next : Nat} {field : Field} {declared : List Field}
      {stencils : List FieldStencil} {exprs : List Expr} {fragment text : String}
      {representation : Representation}
      (matched : field.matchesNothing = false)
      (kind : field.kind = .scalar fragment (.storable representation))
      (normal : Fragment.normalize scope.options fragment = .ok text)
      (rest : Laid scope (slot + 1) (.fields declared stencils exprs) next) :
      Laid scope slot
        (.fields (field :: declared) (.scalar field.name slot field.dest representation :: stencils)
          (.capture slot field.name (.fragment text) :: exprs)) next
  | position {slot next : Nat} {field : Field} {declared : List Field}
      {stencils : List FieldStencil} {exprs : List Expr}
      (kind : field.kind = .position)
      (rest : Laid scope (slot + 1) (.fields declared stencils exprs) next) :
      Laid scope slot
        (.fields (field :: declared) (.position field.name slot field.dest :: stencils)
          (.capture slot field.name Expr.empty :: exprs)) next
  | nested {slot middle next : Nat} {field : Field} {declared : List Field}
      {stencils : List FieldStencil} {exprs : List Expr} {marker : String} {holder : Holder}
      {schema : SchemaId} {cardinality : Cardinality} {child : Stencil} {expr : Expr}
      (kind : field.kind = .nested marker holder schema)
      (means : Cardinality.ofMarker? marker = some cardinality)
      (fits : cardinality = .optional → holder.canBeAbsent = true)
      (inside : Laid scope (slot + 1) (.record schema child expr) middle)
      (rest : Laid scope middle (.fields declared stencils exprs) next) :
      Laid scope slot
        (.fields (field :: declared)
          (.nested field.name slot field.dest holder child :: stencils)
          (.capture slot field.name (withCardinality cardinality expr) :: exprs)) next
  | union {slot middle next : Nat} {field : Field} {declared : List Field}
      {stencils : List FieldStencil} {exprs : List Expr} {marker : String}
      {capability : CapabilityId} {cardinality : Cardinality} {entry : UnionEntry}
      {variants : List Stencil} {branches : List Expr}
      (kind : field.kind = .union marker capability)
      (means : Cardinality.ofMarker? marker = some cardinality)
      (registered : scope.registry.lookup? capability = some entry)
      (inside : Laid scope (slot + 1) (.variants entry.variants variants branches) middle)
      (rest : Laid scope middle (.fields declared stencils exprs) next) :
      Laid scope slot
        (.fields (field :: declared)
          (.union field.name slot field.dest capability
            (scope.family.capabilityName capability) variants :: stencils)
          (.capture slot field.name (withCardinality cardinality (.alternation branches)) ::
            exprs)) next
  | noVariants {slot : Nat} : Laid scope slot (.variants [] [] []) slot
  | variant {slot middle next : Nat} {schema : SchemaId} {schemas : List SchemaId}
      {stencil : Stencil} {stencils : List Stencil} {expr : Expr} {exprs : List Expr}
      (first : Laid scope slot (.record schema stencil expr) middle)
      (rest : Laid scope middle (.variants schemas stencils exprs) next) :
      Laid scope slot (.variants (schema :: schemas) (stencil :: stencils) (expr :: exprs)) next

theorem Laid.le {scope : Scope} {slot next : Nat} {part : Part}
    (laid : Laid scope slot part next) : slot ≤ next := by
  induction laid with
  | noFields => exact Nat.le_refl _
  | noVariants => exact Nat.le_refl _
  | _ => omega

theorem Laid.schema_eq {scope : Scope} {slot next : Nat} {id : SchemaId} {stencil : Stencil}
    {expr : Expr} (laid : Laid scope slot (.record id stencil expr) next) :
    stencil.schema = id := by
  cases laid
  rfl

/-- Every success of a way to compile records is laid out. -/
def Lays (scope : Scope) (child : Child) : Prop :=
  ∀ ⦃schema slot stencil expr next⦄, child schema slot = .ok ⟨(stencil, expr), next⟩ →
    Laid scope slot (.record schema stencil expr) next

def extended (part : Option (FieldStencil × Expr)) (stencils : List FieldStencil)
    (exprs : List Expr) : List FieldStencil × List Expr :=
  match part with
  | none => (stencils, exprs)
  | some (stencil, expr) => (stencil :: stencils, expr :: exprs)

/-- A field that compiles is laid out in front of any fields that are laid out after it. -/
def Leads (scope : Scope) (field : Field) (slot : Nat) (part : Option (FieldStencil × Expr))
    (middle : Nat) : Prop :=
  ∀ ⦃declared stencils exprs next⦄, Laid scope middle (.fields declared stencils exprs) next →
    Laid scope slot (.fields (field :: declared) (extended part stencils exprs).1
      (extended part stencils exprs).2) next

section Fields

variable {scope : Scope} {path : List SchemaId} {child : Child} {owner name fragment : String}
variable {field : Field} {slot middle : Nat} {part : Option (FieldStencil × Expr)}

theorem normalize_of_fragmentText {text : String}
    (success : fragmentText scope owner name fragment = .ok text) :
    Fragment.normalize scope.options fragment = .ok text := by
  unfold fragmentText at success
  split at success
  · rename_i normal
    rwa [← Except.ok.inj success]
  · cases success

theorem ofMarker?_of_cardinality {marker : String} {result : Cardinality}
    (success : cardinality owner name marker = .ok result) :
    Cardinality.ofMarker? marker = some result := by
  unfold cardinality at success
  split at success
  · rename_i means
    rwa [← Except.ok.inj success]
  · cases success

theorem leads_of_compileSeparator (kind : field.kind = .separator fragment)
    (success : compileSeparator scope owner fragment slot = .ok ⟨part, middle⟩) :
    Leads scope field slot part middle := by
  intro declared stencils exprs next rest
  unfold compileSeparator at success
  split at success
  · rename_i empty
    cases success
    exact .skipped (by simp [Field.matchesNothing, kind, empty]) rest
  · rename_i nonempty
    obtain ⟨text, read, done⟩ := bind_eq_ok_iff.1 success
    cases done
    exact .separator (by simpa [Field.matchesNothing, kind] using nonempty) kind
      (normalize_of_fragmentText read) rest

theorem leads_of_compileScalar {type : ScalarType} (kind : field.kind = .scalar fragment type)
    (success : compileScalar scope owner field.name fragment type field.dest slot =
      .ok ⟨part, middle⟩) :
    Leads scope field slot part middle := by
  intro declared stencils exprs next rest
  unfold compileScalar at success
  split at success
  · rename_i empty
    cases success
    exact .skipped (by simp [Field.matchesNothing, kind, empty]) rest
  · rename_i nonempty
    obtain ⟨text, read, done⟩ := bind_eq_ok_iff.1 success
    cases type with
    | other typeName => cases done
    | storable representation =>
      cases done
      exact .scalar (by simpa [Field.matchesNothing, kind] using nonempty) kind
        (normalize_of_fragmentText read) rest

theorem leads_of_compileNested {marker : String} {holder : Holder} {schema : SchemaId}
    (lays : Lays scope child) (kind : field.kind = .nested marker holder schema)
    (success : compileNested path child owner field.name marker holder schema field.dest slot =
      .ok ⟨part, middle⟩) :
    Leads scope field slot part middle := by
  intro declared stencils exprs next rest
  unfold compileNested at success
  obtain ⟨cardinality, read, success⟩ := bind_eq_ok_iff.1 success
  obtain ⟨placed, success⟩ := unless_eq_ok_iff.1 success
  obtain ⟨_, success⟩ := unless_eq_ok_iff.1 success
  obtain ⟨⟨⟨stencil, expr⟩, after⟩, inside, done⟩ := bind_eq_ok_iff.1 success
  cases done
  refine .nested kind (ofMarker?_of_cardinality read) ?_ (lays inside) rest
  intro optional
  simpa [optional] using placed

theorem laid_of_compileVariants (lays : Lays scope child) {schemas : List SchemaId}
    {stencils : List Stencil} {exprs : List Expr} {slot next : Nat}
    (success : compileVariants child schemas slot = .ok ⟨(stencils, exprs), next⟩) :
    Laid scope slot (.variants schemas stencils exprs) next := by
  induction schemas generalizing slot stencils exprs with
  | nil =>
    cases success
    exact .noVariants
  | cons schema schemas ih =>
    unfold compileVariants at success
    obtain ⟨⟨⟨stencil, expr⟩, middle⟩, first, success⟩ := bind_eq_ok_iff.1 success
    obtain ⟨⟨⟨others, branches⟩, last⟩, rest, done⟩ := bind_eq_ok_iff.1 success
    cases done
    exact .variant (lays first) (ih rest)

theorem leads_of_compileUnion {marker : String} {capability : CapabilityId}
    (lays : Lays scope child) (kind : field.kind = .union marker capability)
    (success : compileUnion scope child owner field.name marker capability field.dest slot =
      .ok ⟨part, middle⟩) :
    Leads scope field slot part middle := by
  intro declared stencils exprs next rest
  unfold compileUnion at success
  obtain ⟨cardinality, read, success⟩ := bind_eq_ok_iff.1 success
  cases registered : scope.registry.lookup? capability with
  | none =>
    simp only [registered] at success
    cases success
  | some entry =>
    simp only [registered] at success
    obtain ⟨⟨⟨variants, branches⟩, after⟩, inside, done⟩ := bind_eq_ok_iff.1 success
    cases done
    exact .union kind (ofMarker?_of_cardinality read) registered
      (laid_of_compileVariants lays inside) rest

theorem leads_of_compileField (lays : Lays scope child)
    (success : compileField scope path child owner field slot = .ok ⟨part, middle⟩) :
    Leads scope field slot part middle := by
  unfold compileField at success
  split at success
  · rename_i kind
    exact leads_of_compileSeparator kind success
  · rename_i kind
    exact leads_of_compileScalar kind success
  · rename_i kind
    intro declared stencils exprs next rest
    cases success
    exact .position kind rest
  · rename_i kind
    exact leads_of_compileNested lays kind success
  · rename_i kind
    exact leads_of_compileUnion lays kind success

theorem laid_of_compileFields (lays : Lays scope child) {declared : List Field}
    {stencils : List FieldStencil} {exprs : List Expr} {slot next : Nat}
    (success : compileFields scope path child owner declared slot =
      .ok ⟨(stencils, exprs), next⟩) :
    Laid scope slot (.fields declared stencils exprs) next := by
  induction declared generalizing slot stencils exprs with
  | nil =>
    cases success
    exact .noFields
  | cons field declared ih =>
    unfold compileFields at success
    obtain ⟨⟨part, middle⟩, first, success⟩ := bind_eq_ok_iff.1 success
    obtain ⟨⟨⟨others, parts⟩, last⟩, rest, success⟩ := bind_eq_ok_iff.1 success
    have leads : Leads scope field slot part middle := leads_of_compileField lays first
    cases part with
    | none =>
      cases success
      exact leads (ih rest)
    | some pair =>
      cases success
      exact leads (ih rest)

end Fields

/-- Whatever compiles with a bound on its depth is laid out. -/
theorem lays_compileSchema (scope : Scope) (levels : Nat) (path : List SchemaId) :
    Lays scope (compileSchema scope levels path) := by
  induction levels generalizing path with
  | zero =>
    intro schema slot stencil expr next success
    cases success
  | succ levels ih =>
    intro schema slot stencil expr next success
    unfold compileSchema at success
    split at success
    · cases success
    · obtain ⟨⟨⟨stencils, exprs⟩, last⟩, fields, done⟩ := bind_eq_ok_iff.1 success
      cases done
      exact .record (laid_of_compileFields (ih (schema :: path)) fields)

end Compilation

theorem Scope.laid_of_compile {scope : Scope} {root : SchemaId} {stencil : Stencil} {expr : Expr}
    (success : scope.compile root = .ok (stencil, expr)) :
    ∃ next, Compilation.Laid scope 0 (.record root stencil expr) next := by
  unfold Scope.compile at success
  obtain ⟨⟨part, next⟩, compiled, done⟩ := bind_eq_ok_iff.1 success
  cases done
  exact ⟨next, Compilation.lays_compileSchema scope _ _ compiled⟩

end SchemaMatch
