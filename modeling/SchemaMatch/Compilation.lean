import SchemaMatch.Error
import SchemaMatch.Expr.Basic
import SchemaMatch.Fragment
import SchemaMatch.Stencil.Basic
import SchemaMatch.Union.Registry

/-!
# Compiling schemas

A schema compiles to a stencil and a pattern tree that share their slots. Slots are given out in
order: to the envelope of a record before its fields, to a field before the record that it holds.
A schema must not reach itself, so what is being compiled at any time is a path without repetition.
-/

namespace SchemaMatch

/-- What schemas are compiled against. -/
structure Scope where
  family : Family
  registry : Registry
  options : Options
  deriving DecidableEq, Repr

/-- A compiled part and the slot that comes after it. -/
structure Compiled (α : Type) where
  part : α
  next : Nat

namespace Compilation

/-- How a schema is compiled from a slot on. -/
abbrev Child := SchemaId → Nat → Except CompileError (Compiled (Stencil × Expr))

/-- What a field compiles to; nothing if it matches nothing. -/
abbrev FieldResult := Except CompileError (Compiled (Option (FieldStencil × Expr)))

/-- The normal form of a field's fragment. -/
def fragmentText (scope : Scope) (owner : String) (name fragment : String) :
    Except CompileError String :=
  match Fragment.normalize scope.options fragment with
  | .ok text => .ok text
  | .error error => .error (.patternSyntax owner name fragment error.problem.message)

def cardinality (owner name marker : String) : Except CompileError Cardinality :=
  match Cardinality.ofMarker? marker with
  | some cardinality => .ok cardinality
  | none => .error (.invalidMarker owner name marker)

/-- A tree that may be absent where the cardinality says so. -/
def withCardinality (cardinality : Cardinality) (expr : Expr) : Expr :=
  match cardinality with
  | .required => expr
  | .optional => .optional expr

def compileSeparator (scope : Scope) (owner fragment : String) (slot : Nat) : FieldResult := do
  if fragment.isEmpty then return ⟨none, slot⟩
  let text ← fragmentText scope owner Field.separatorName fragment
  return ⟨some (.separator, .fragment text), slot⟩

def compileScalar (scope : Scope) (owner name fragment : String) (type : ScalarType)
    (dest slot : Nat) : FieldResult := do
  if fragment.isEmpty then return ⟨none, slot⟩
  let text ← fragmentText scope owner name fragment
  match type.representation? with
  | none => .error (.unsupportedFieldType owner name type.name)
  | some representation =>
    return ⟨some (.scalar name slot dest representation, .capture slot name (.fragment text)),
      slot + 1⟩

def compilePosition (name : String) (dest slot : Nat) : FieldResult :=
  .ok ⟨some (.position name slot dest, .capture slot name Expr.empty), slot + 1⟩

def compileNested (path : List SchemaId) (child : Child) (owner name marker : String)
    (holder : Holder) (schema : SchemaId) (dest slot : Nat) : FieldResult := do
  let cardinality ← cardinality owner name marker
  if cardinality = .optional ∧ ¬ holder.canBeAbsent then
    .error (.misplacedOptionalMarker owner name)
  if schema ∈ path then .error (.recursiveSchema owner)
  let ⟨(stencil, expr), next⟩ ← child schema (slot + 1)
  return ⟨some (.nested name slot dest holder stencil,
    .capture slot name (withCardinality cardinality expr)), next⟩

def compileVariants (child : Child) :
    List SchemaId → Nat → Except CompileError (Compiled (List Stencil × List Expr))
  | [], slot => .ok ⟨([], []), slot⟩
  | variant :: rest, slot => do
    let ⟨(stencil, expr), next⟩ ← child variant slot
    let ⟨(stencils, exprs), next⟩ ← compileVariants child rest next
    return ⟨(stencil :: stencils, expr :: exprs), next⟩

def compileUnion (scope : Scope) (child : Child) (owner name marker : String)
    (capability : CapabilityId) (dest slot : Nat) : FieldResult := do
  let cardinality ← cardinality owner name marker
  let capabilityName := scope.family.capabilityName capability
  match scope.registry.lookup? capability with
  | none => .error (.unregisteredCapability owner name capabilityName)
  | some entry =>
    let ⟨(stencils, exprs), next⟩ ← compileVariants child entry.variants (slot + 1)
    return ⟨some (.union name slot dest capability capabilityName stencils,
      .capture slot name (withCardinality cardinality (.alternation exprs))), next⟩

def compileField (scope : Scope) (path : List SchemaId) (child : Child) (owner : String)
    (field : Field) (slot : Nat) : FieldResult :=
  match field.kind with
  | .separator fragment => compileSeparator scope owner fragment slot
  | .scalar fragment type => compileScalar scope owner field.name fragment type field.dest slot
  | .position => compilePosition field.name field.dest slot
  | .nested marker holder schema =>
    compileNested path child owner field.name marker holder schema field.dest slot
  | .union marker capability =>
    compileUnion scope child owner field.name marker capability field.dest slot

def compileFields (scope : Scope) (path : List SchemaId) (child : Child) (owner : String) :
    List Field → Nat → Except CompileError (Compiled (List FieldStencil × List Expr))
  | [], slot => .ok ⟨([], []), slot⟩
  | field :: rest, slot => do
    let ⟨part, next⟩ ← compileField scope path child owner field slot
    let ⟨(stencils, exprs), next⟩ ← compileFields scope path child owner rest next
    match part with
    | none => return ⟨(stencils, exprs), next⟩
    | some (stencil, expr) => return ⟨(stencil :: stencils, expr :: exprs), next⟩

/-- Compiles a schema that is reached by a path. The first argument bounds the number of schemas
that are still to come on a path. -/
def compileSchema (scope : Scope) : Nat → List SchemaId → Child
  | 0, _, id, _ => .error (.recursiveSchema (scope.family.schema id).name)
  | levels + 1, path, id, slot => do
    let schema := scope.family.schema id
    if id ∈ path then .error (.recursiveSchema schema.name)
    let child := compileSchema scope levels (id :: path)
    let ⟨(stencils, exprs), next⟩ ←
      compileFields scope (id :: path) child schema.name schema.fields (slot + 1)
    return ⟨(.mk id schema.name schema.typeName slot stencils,
      .capture slot schema.name (.concat exprs)), next⟩

/-- A bound on the length of paths: no schema with fields is twice on one, and the last one may
have none. -/
def maxPath (scope : Scope) : Nat := scope.family.schemas.length + 1

end Compilation

/-- Compiles a schema. Its envelope has slot zero. -/
def Scope.compile (scope : Scope) (root : SchemaId) : Except CompileError (Stencil × Expr) := do
  let ⟨part, _⟩ ← Compilation.compileSchema scope (Compilation.maxPath scope) [] root 0
  return part

end SchemaMatch
