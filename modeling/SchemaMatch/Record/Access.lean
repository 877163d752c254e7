import SchemaMatch.Record.Basic

/-!
# Accessors

A field reaches its destination through an accessor. What accessors reach is told by whoever declares
the schemas: an accessor goes through records that are always there, one inside the other, and ends
at a place in the last of them. Two accessors may end at one place, and one may go on where another
ends; then a field changes what another one writes.
-/

namespace SchemaMatch

/-- A destination that holds a record of another schema. -/
structure Hold where
  dest : Nat
  holder : Holder
  schema : SchemaId
  deriving DecidableEq, Repr

namespace Hold

/-- The place of a record that is held. -/
def place (hold : Hold) : Place := ⟨hold.dest, .nested hold.holder hold.schema⟩

/-- The places of records, each of which is held by the one before. -/
def path (holds : List Hold) : List Place := holds.map place

end Hold

namespace Record

def descend : List Hold → Record → Record
  | [], record => record
  | hold :: rest, record => descend rest (record.child hold.place hold.schema)

/-- Changes the record at the end of some holds. Records that are missing on the way are made. -/
def changeAt : List Hold → (Record → Record) → Record → Record
  | [], change, record => change record
  | hold :: rest, change, record =>
    record.set hold.place
      (changeAt rest change (record.child hold.place hold.schema)).content

end Record

/-- Where an accessor ends. -/
structure Spot where
  /-- The records on the way. -/
  through : List Hold
  place : Place
  deriving DecidableEq, Repr

namespace Spot

/-- The places on the way to a spot, and its own. -/
def path (spot : Spot) : List Place := Hold.path spot.through ++ [spot.place]

def put (spot : Spot) (content : Content) (record : Record) : Record :=
  record.changeAt spot.through (·.set spot.place content)

end Spot

/-- What the accessors of schemas reach. -/
structure Accessors where
  /-- The schema of the records that the description of a schema is made for. -/
  owner : SchemaId → SchemaId
  /-- The spot that stands for a destination of a schema. -/
  spot : SchemaId → Place → Spot
  /-- Nothing on the way can be absent. -/
  direct : ∀ schema place, ∀ hold ∈ (spot schema place).through, hold.holder = .direct
  /-- What is reached has the type that the field declares. -/
  type_eq : ∀ schema place, (spot schema place).place.type = place.type

namespace Accessors

/-- The accessors of descriptions that are made for their own schemas, each of which ends at a place
of its own. -/
def plain : Accessors where
  owner := id
  spot _ place := ⟨[], place⟩
  direct := nofun
  type_eq _ _ := rfl

/-- The spot that stands for a destination of a schema in a record. It is there only in records that
the description of the schema is made for. -/
def reach? (accessors : Accessors) (schema : SchemaId) (place : Place) (record : Record) :
    Option Spot :=
  if record.schema ≠ accessors.owner schema then none else some (accessors.spot schema place)

end Accessors

end SchemaMatch
