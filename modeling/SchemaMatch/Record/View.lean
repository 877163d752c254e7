import SchemaMatch.Record.Basic

/-!
# Viewing records

A record is viewed through its schema: one value for each field but the separators, in order.
Destinations that nothing has been written to show as what they start with.
-/

namespace SchemaMatch

inductive Shown
  /-- Nothing is there, or the field stores nothing. -/
  | absent
  | text (value : String)
  | bytes (value : List UInt8)
  | submatch (value : Submatch)
  | position (offset : Nat)
  | record (fields : List (String × Shown))
  | variant (schema : SchemaId) (fields : List (String × Shown))

namespace Shown

/-- What a destination shows before anything has been written to it. -/
def initial (type : PlaceType) : Shown :=
  match type with
  | .scalar .text => text ""
  | .scalar .bytes => bytes []
  | .scalar .submatch => submatch Submatch.blank
  | .scalar _ => absent
  | .position => position 0
  | .nested _ _ => absent
  | .union _ => absent

/-- What a field shows where the destinations show what is given. -/
def ofField (cells : List (Place × Shown)) (field : Field) : Shown :=
  match field.place? with
  | none => absent
  | some place => ((cells.find? (·.1 = place)).map (·.2)).getD (initial place.type)

/-- What the fields of a schema show where the destinations show what is given. -/
def ofFields (schema : Schema) (cells : List (Place × Shown)) : List (String × Shown) :=
  (schema.fields.filter (!·.isHidden)).map fun field => (field.name, ofField cells field)

mutual

/-- What a destination shows that holds something. -/
def ofContent (family : Family) (type : PlaceType) : Content → Shown
  | .text value => text value
  | .bytes value => bytes value
  | .submatch value => submatch value
  | .position offset => position offset
  | .record schema cells =>
    let fields := ofFields (family.schema schema) (ofCells family cells)
    match type with
    | .union _ => variant schema fields
    | _ => record fields

/-- What destinations show that hold something. -/
def ofCells (family : Family) : List (Place × Content) → List (Place × Shown)
  | [] => []
  | (place, content) :: rest =>
    (place, ofContent family place.type content) :: ofCells family rest

end

end Shown

def Record.view (record : Record) (family : Family) : List (String × Shown) :=
  Shown.ofFields (family.schema record.schema) (Shown.ofCells family record.cells)

end SchemaMatch
