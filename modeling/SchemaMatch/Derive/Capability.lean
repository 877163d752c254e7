import SchemaMatch.Derive.Attribute

/-!
# Deriving capabilities

A choice whose variants each wrap one value becomes a capability with these variants in order.
-/

namespace SchemaMatch.Derive

structure CapabilityImpl where
  generics : List Token
  self : List Token
  conditions : List Token
  /-- The name that replaces that of the type. -/
  name : Option String
  /-- The path of each variant. -/
  variants : List (List Token)
  deriving Repr

def VariantDecl.wrapsOne (variant : VariantDecl) : Bool :=
  match variant.fields with
  | .unnamed 1 => true
  | _ => false

def Body.capabilityVariants : Body → Except DeriveError (List VariantDecl)
  | choice variants =>
    if variants.isEmpty then .error .noVariants
    else if variants.all VariantDecl.wrapsOne then .ok variants
    else .error .variantShape
  | record _ => .error .capabilityOfOther
  | overlay => .error .capabilityOfOther

def Item.variantPath (item : Item) (variant : VariantDecl) : List Token :=
  [.word item.name, .punct ':' true, .punct ':' false, .word variant.name]

def Item.deriveCapability (item : Item) : Except DeriveError CapabilityImpl := do
  let name ← declaredName item.attributes
  let variants ← item.body.capabilityVariants
  .ok ⟨item.generics, item.selfType, item.conditions, name, variants.map item.variantPath⟩

end SchemaMatch.Derive
