/-!
# Errors

Compiling a schema, registering variants and writing a match each fail for causes of their own. A
cause keeps the names that its wording needs.
-/

namespace SchemaMatch

inductive CompileError
  /-- A fragment is not a pattern. -/
  | patternSyntax (schema field pattern problem : String)
  /-- A captured field has a type that cannot hold text. -/
  | unsupportedFieldType (schema field typeName : String)
  /-- A field that is always there is marked as optional. -/
  | misplacedOptionalMarker (schema field : String)
  /-- A marker that means no cardinality. -/
  | invalidMarker (schema field marker : String)
  /-- A union field whose capability has no variants. -/
  | unregisteredCapability (schema field capability : String)
  /-- A schema inside itself. -/
  | recursiveSchema (schema : String)
  /-- The composed pattern is refused. -/
  | engine (schema problem : String)
  /-- The composed pattern has another number of groups than there are slots. -/
  | slotCountMismatch (schema : String) (slots groups : Nat)
  deriving DecidableEq, Repr

namespace CompileError

/-- The field that is at fault. -/
def field? : CompileError → Option String
  | patternSyntax _ field _ _ => some field
  | unsupportedFieldType _ field _ => some field
  | misplacedOptionalMarker _ field => some field
  | invalidMarker _ field _ => some field
  | unregisteredCapability _ field _ => some field
  | recursiveSchema _ => none
  | engine _ _ => none
  | slotCountMismatch _ _ _ => none

/-- The wording of a compile error. -/
def message : CompileError → String
  | patternSyntax schema field pattern problem =>
    s!"{schema}.{field}: {problem} (pattern was \"{pattern}\")"
  | unsupportedFieldType schema field typeName =>
    s!"{schema}.{field}: unable to capture into {typeName}"
  | misplacedOptionalMarker schema field =>
    s!"{schema}.{field} is marked with \"?\" but cannot be absent"
  | invalidMarker schema field marker => s!"invalid marker \"{marker}\" on {schema}.{field}"
  | unregisteredCapability schema field capability =>
    s!"{schema}.{field}: capability {capability} has no registered variants"
  | recursiveSchema schema => s!"{schema} contains itself"
  | engine schema problem => s!"failed to compile pattern for {schema}: {problem}"
  | slotCountMismatch schema slots groups =>
    s!"pattern for {schema} allocated {slots} slots but the engine reports {groups} groups"

end CompileError

inductive UnionError
  | duplicateRegistration (capability : String)
  | emptyVariantList (capability : String)
  /-- One schema is listed twice. -/
  | duplicateVariant (capability variant : String)
  deriving DecidableEq, Repr

/-- The wording of a registration error. -/
def UnionError.message : UnionError → String
  | duplicateRegistration capability => s!"{capability} already registered"
  | emptyVariantList capability => s!"{capability} registered without variants"
  | duplicateVariant capability variant => s!"{capability} lists {variant} more than once"

/-- Why a match cannot be written to a destination. -/
inductive MatchError
  /-- The destination is of another type. -/
  | destinationTypeMismatch (expected : String)
  /-- A region is no stretch of the text. -/
  | unsupportedFieldRepresentation (field typeName : String)
  deriving DecidableEq, Repr

/-- The wording of a match error. -/
def MatchError.message : MatchError → String
  | destinationTypeMismatch expected => s!"expected destination to be {expected}"
  | unsupportedFieldRepresentation field typeName =>
    s!"{field}: unable to capture into {typeName}"

/-- Why compiling and matching in one go fails. -/
inductive Failure
  | compile (error : CompileError)
  | inflate (error : MatchError)
  deriving DecidableEq, Repr

/-- The wording of a failure, which is that of its cause. -/
def Failure.message : Failure → String
  | compile error => error.message
  | inflate error => error.message

end SchemaMatch
