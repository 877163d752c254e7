import SchemaMatch.Union.Registry

/-!
# Registering in place

A registry is changed where it is. A registration that is refused or breaks off ends at that step,
and whatever has been done to the registry by then stays done. A process keeps its registry behind a
lock. A supply that breaks off while the lock is held leaves the lock poisoned; whoever takes it next
goes on with the registry that is there.
-/

namespace SchemaMatch

/-- A call that registers the variants of a capability. -/
structure Registration where
  capability : CapabilityId
  supply : Supply
  deriving DecidableEq, Repr

/-- What a registration answers. -/
abbrev RegistrationAnswer := Except RegistrationFailure Unit

namespace Registration

/-- A step of a registration, on the registry that it may change. -/
abbrev Step := ExceptT RegistrationFailure (StateM Registry)

def ensureAbsent (family : Family) (call : Registration) : Step Unit := do
  if (← get).contains call.capability then
    throw (.refused (.duplicateRegistration (family.capabilityName call.capability)))

def drawVariants (family : Family) (call : Registration) : Step (List SchemaId) :=
  ExceptT.mk (pure (Registry.draw family call.capability [] call.supply))

def addEntry (family : Family) (call : Registration) (variants : List SchemaId) : Step Unit :=
  let name := family.capabilityName call.capability
  match variants with
  | [] => throw (.refused (.emptyVariantList name))
  | _ => modify fun registry => ⟨registry.entries ++ [⟨call.capability, name, variants⟩]⟩

def steps (family : Family) (call : Registration) : Step Unit := do
  call.ensureAbsent family
  call.addEntry family (← call.drawVariants family)

def perform (family : Family) (call : Registration) (registry : Registry) :
    RegistrationAnswer × Registry :=
  (call.steps family).run registry

/-- Makes one registration after another. -/
def performAll (family : Family) :
    List Registration → Registry → List RegistrationAnswer × Registry
  | [], registry => ([], registry)
  | call :: rest, registry =>
    let (answer, registry) := call.perform family registry
    let (answers, registry) := performAll family rest registry
    (answer :: answers, registry)

end Registration

/-- A registry behind a lock. -/
structure SharedRegistry where
  registry : Registry
  /-- Whether a registration broke off while it held the lock. -/
  isPoisoned : Bool
  deriving DecidableEq, Repr

namespace SharedRegistry

def fresh : SharedRegistry := ⟨.empty, false⟩

/-- Takes the lock. A poisoned lock says so, and gives the registry nevertheless. -/
def lock (shared : SharedRegistry) : Except Registry Registry :=
  if shared.isPoisoned then .error shared.registry else .ok shared.registry

def recovered (shared : SharedRegistry) : Registry :=
  match shared.lock with
  | .ok registry => registry
  | .error registry => registry

def perform (family : Family) (call : Registration) (shared : SharedRegistry) :
    RegistrationAnswer × SharedRegistry :=
  match call.perform family shared.recovered with
  | (.error .broken, registry) => (.error .broken, ⟨registry, true⟩)
  | (answer, registry) => (answer, { shared with registry })

/-- Makes one registration after another, each under the lock. -/
def performAll (family : Family) :
    List Registration → SharedRegistry → List RegistrationAnswer × SharedRegistry
  | [], shared => ([], shared)
  | call :: rest, shared =>
    let (answer, shared) := shared.perform family call
    let (answers, shared) := performAll family rest shared
    (answer :: answers, shared)

end SharedRegistry

end SchemaMatch
