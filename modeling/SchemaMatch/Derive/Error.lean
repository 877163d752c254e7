/-!
# Why nothing is derived

A declaration may have an attribute that does not read, or a shape that nothing is derived for.
-/

namespace SchemaMatch.Derive

inductive DeriveError
  /-- Something in a field's attribute starts no item. -/
  | expectedFieldItem
  /-- Something in the attribute of a declaration is no name. -/
  | expectedName
  | expectedEquals
  /-- Something stands where a string must, or nothing does. -/
  | expectedString (atEnd : Bool)
  | missingArguments
  | argumentsWithoutParentheses
  /-- A field has two roles. -/
  | repeatedRole
  /-- A hidden field holds a record or a variant. -/
  | hiddenRecord
  | unnamedFields
  | schemaOfChoice
  | schemaOfOverlay
  | capabilityOfOther
  | noVariants
  /-- A variant does not hold exactly one value without a name. -/
  | variantShape
  deriving DecidableEq, Repr

/-- The wording of each error. -/
def DeriveError.message : DeriveError → String
  | expectedFieldItem =>
    "expected one of: string literal, `nested`, `optional`, `union`, `pos`, `name`"
  | expectedName => "expected `name`"
  | expectedEquals => "expected `=`"
  | expectedString true => "unexpected end of input, expected string literal"
  | expectedString false => "expected string literal"
  | missingArguments => "expected attribute arguments in parentheses: #[restructure(...)]"
  | argumentsWithoutParentheses => "expected parentheses: #[restructure(...)]"
  | repeatedRole => "a field takes one of a fragment, `nested`, `optional`, `union` or `pos`"
  | hiddenRecord => "only fragments can be hidden; rename the field without the leading `_`"
  | unnamedFields => "Schema can only be derived for structs with named fields"
  | schemaOfChoice => "Schema cannot be derived for enums; derive Capability instead"
  | schemaOfOverlay => "Schema cannot be derived for unions"
  | capabilityOfOther => "Capability can only be derived for enums"
  | noVariants => "a capability needs at least one variant"
  | variantShape =>
    "capability variants must wrap exactly one schema type, e.g. `Phone(Phone)`"

end SchemaMatch.Derive
