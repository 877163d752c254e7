import SchemaMatch.Schema.Basic

/-!
# Stencils

A stencil is the layout of a compiled schema: it says which slot of a match goes to which
destination of a record. The slot of a record is its envelope, which takes part in a match exactly
where the record does.
-/

namespace SchemaMatch

mutual

/-- The layout of the records of a schema. -/
inductive Stencil
  | mk (schema : SchemaId) (name typeName : String) (slot : Nat) (fields : List FieldStencil)

inductive FieldStencil
  | separator
  | scalar (name : String) (slot dest : Nat) (representation : Representation)
  | position (name : String) (slot dest : Nat)
  | nested (name : String) (slot dest : Nat) (holder : Holder) (child : Stencil)
  | union (name : String) (slot dest : Nat) (capability : CapabilityId)
      (capabilityName : String) (variants : List Stencil)

end

deriving instance Repr for Stencil, FieldStencil

namespace Stencil

/-- The schema of the records. -/
def schema : Stencil → SchemaId
  | mk schema _ _ _ _ => schema

/-- The name of the schema. -/
def name : Stencil → String
  | mk _ name _ _ _ => name

def typeName : Stencil → String
  | mk _ _ typeName _ _ => typeName

/-- The slot of the envelope. -/
def slot : Stencil → Nat
  | mk _ _ _ slot _ => slot

/-- The fields in order. -/
def fields : Stencil → List FieldStencil
  | mk _ _ _ _ fields => fields

end Stencil

namespace FieldStencil

/-- The name of a field. -/
def name : FieldStencil → String
  | separator => Field.separatorName
  | scalar name _ _ _ => name
  | position name _ _ => name
  | nested name _ _ _ _ => name
  | union name _ _ _ _ _ => name

/-- The slot of a field. -/
def slot? : FieldStencil → Option Nat
  | separator => none
  | scalar _ slot _ _ => some slot
  | position _ slot _ => some slot
  | nested _ slot _ _ _ => some slot
  | union _ slot _ _ _ _ => some slot

end FieldStencil

namespace Stencil

mutual

def slotsAt (path : String) : Stencil → List (String × Nat)
  | mk _ _ _ slot fields => (path, slot) :: fieldSlots path fields

def fieldSlots (path : String) : List FieldStencil → List (String × Nat)
  | [] => []
  | .separator :: rest => fieldSlots path rest
  | .scalar name slot _ _ :: rest => (s!"{path}.{name}", slot) :: fieldSlots path rest
  | .position name slot _ :: rest => (s!"{path}.{name}", slot) :: fieldSlots path rest
  | .nested name slot _ _ child :: rest =>
    (s!"{path}.{name}", slot) :: slotsAt s!"{path}.{name}" child ++ fieldSlots path rest
  | .union name slot _ _ _ variants :: rest =>
    (s!"{path}.{name}", slot) :: variantSlots s!"{path}.{name}" variants ++ fieldSlots path rest

def variantSlots (path : String) : List Stencil → List (String × Nat)
  | [] => []
  | .mk _ name _ slot fields :: rest =>
    ((s!"{path}.{name}", slot) :: fieldSlots s!"{path}.{name}" fields) ++
      variantSlots path rest

end

/-- All slots in order, each with the dotted path of what it goes to. -/
def slots (stencil : Stencil) : List (String × Nat) := stencil.slotsAt stencil.name

/-- The number of slots. -/
def slotCount (stencil : Stencil) : Nat := stencil.slots.length

mutual

/-- Whether two stencils lay out the same slots under the same names. Records may be of different
schemas and have their destinations in different places; variants must be of the same schemas. -/
def agrees : Stencil → Stencil → Bool
  | mk _ name _ slot fields, mk _ name' _ slot' fields' =>
    name == name' && slot == slot' && fieldsAgree fields fields'

def fieldsAgree : List FieldStencil → List FieldStencil → Bool
  | [], [] => true
  | field :: rest, field' :: rest' => fieldAgrees field field' && fieldsAgree rest rest'
  | _, _ => false

def fieldAgrees : FieldStencil → FieldStencil → Bool
  | .separator, .separator => true
  | .scalar name slot _ repr, .scalar name' slot' _ repr' =>
    name == name' && slot == slot' && repr == repr'
  | .position name slot _, .position name' slot' _ => name == name' && slot == slot'
  | .nested name slot _ _ child, .nested name' slot' _ _ child' =>
    name == name' && slot == slot' && agrees child child'
  | .union name slot _ _ capability variants, .union name' slot' _ _ capability' variants' =>
    name == name' && slot == slot' && capability == capability' &&
      variantsAgree variants variants'
  | _, _ => false

def variantsAgree : List Stencil → List Stencil → Bool
  | [], [] => true
  | variant :: rest, variant' :: rest' =>
    variant.schema == variant'.schema && agrees variant variant' && variantsAgree rest rest'
  | _, _ => false

end

end Stencil

end SchemaMatch
