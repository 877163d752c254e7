import SchemaMatch.Error
import SchemaMatch.Schema.Basic

/-!
# The union registry

A registry lists the variants of capabilities. A capability is registered once and for all, with at
least one variant and no variant twice. The variants come from a supply, which may break off; a
registration that is refused or breaks off leaves the registry as it was.
-/

namespace SchemaMatch

/-- The variants that are offered to a registration, one after another. -/
inductive Supply
  | finished
  | offer (schema : SchemaId) (rest : Supply)
  /-- Asking for a further variant breaks off. -/
  | broken
  deriving DecidableEq, Repr

/-- A supply of some schemas that breaks off when it is asked for the one at a place. -/
def Supply.ofList : List SchemaId → Option Nat → Supply
  | [], _ => finished
  | _ :: _, some 0 => broken
  | schema :: rest, some (n + 1) => offer schema (ofList rest (some n))
  | schema :: rest, none => offer schema (ofList rest none)

/-- Why a registration comes to nothing. -/
inductive RegistrationFailure
  | refused (error : UnionError)
  /-- The supply broke off. -/
  | broken
  deriving DecidableEq, Repr

/-- The variants of a capability, in the order in which matching tries them. -/
structure UnionEntry where
  capability : CapabilityId
  name : String
  variants : List SchemaId
  deriving DecidableEq, Repr

/-- The capabilities that have variants, in the order in which they were registered. -/
structure Registry where
  entries : List UnionEntry
  deriving DecidableEq, Repr

namespace Registry

def empty : Registry := ⟨[]⟩

def lookup? (registry : Registry) (capability : CapabilityId) : Option UnionEntry :=
  registry.entries.find? (·.capability == capability)

def contains (registry : Registry) (capability : CapabilityId) : Bool :=
  (registry.lookup? capability).isSome

/-- The number of registered capabilities. -/
def size (registry : Registry) : Nat := registry.entries.length

def isEmpty (registry : Registry) : Bool := registry.entries.isEmpty

/-- Takes variants from a supply until it has finished, after those taken before. A variant that was
taken before is refused. -/
def draw (family : Family) (capability : CapabilityId) (taken : List SchemaId) :
    Supply → Except RegistrationFailure (List SchemaId)
  | .finished => .ok taken
  | .broken => .error .broken
  | .offer schema rest =>
    if schema ∈ taken then
      .error (.refused (.duplicateVariant (family.capabilityName capability)
        (family.schema schema).typeName))
    else draw family capability (taken ++ [schema]) rest

def register (family : Family) (registry : Registry) (capability : CapabilityId)
    (supply : Supply) : Except RegistrationFailure Registry :=
  let name := family.capabilityName capability
  if registry.contains capability then .error (.refused (.duplicateRegistration name))
  else
    match draw family capability [] supply with
    | .error failure => .error failure
    | .ok [] => .error (.refused (.emptyVariantList name))
    | .ok variants => .ok ⟨registry.entries ++ [⟨capability, name, variants⟩]⟩

end Registry

end SchemaMatch
