import SchemaMatch.Schema.Basic
import SchemaMatch.Submatch

/-!
# Records

A record holds what has been written to the destinations of its schema. Fields share a destination
if they name the same number and it has the same type for both; with different types they do not
meet, unless accessors lead them elsewhere. A destination that nothing has been written to holds
nothing.
-/

namespace SchemaMatch

inductive PlaceType
  | scalar (representation : Representation)
  | position
  | nested (holder : Holder) (schema : SchemaId)
  | union (capability : CapabilityId)
  deriving DecidableEq, Repr

/-- A destination of a record. -/
structure Place where
  dest : Nat
  type : PlaceType
  deriving DecidableEq, Repr

def Field.place? (field : Field) : Option Place :=
  match field.kind with
  | .scalar _ (.storable representation) => some ⟨field.dest, .scalar representation⟩
  | .position => some ⟨field.dest, .position⟩
  | .nested _ holder schema => some ⟨field.dest, .nested holder schema⟩
  | .union _ capability => some ⟨field.dest, .union capability⟩
  | _ => none

inductive Content
  | text (value : String)
  | bytes (value : List UInt8)
  | submatch (value : Submatch)
  | position (offset : Nat)
  /-- A record of a schema, with what its destinations hold. -/
  | record (schema : SchemaId) (cells : List (Place × Content))

/-- What has been written to the destinations of a schema. -/
structure Record where
  schema : SchemaId
  /-- Each place occurs once. -/
  cells : List (Place × Content)

namespace Record

/-- The record that nothing has been written to. -/
def blank (schema : SchemaId) : Record := ⟨schema, []⟩

def cellAt? (place : Place) : List (Place × Content) → Option Content
  | [] => none
  | (other, content) :: rest => if other = place then some content else cellAt? place rest

def setCell (place : Place) (content : Content) :
    List (Place × Content) → List (Place × Content)
  | [] => [(place, content)]
  | (other, old) :: rest =>
    if other = place then (place, content) :: rest
    else (other, old) :: setCell place content rest

/-- What a record holds at a place. -/
def get? (record : Record) (place : Place) : Option Content := cellAt? place record.cells

def set (record : Record) (place : Place) (content : Content) : Record :=
  { record with cells := setCell place content record.cells }

/-- The record that is held at a place, or a blank one of the given schema. -/
def child (record : Record) (place : Place) (schema : SchemaId) : Record :=
  match record.get? place with
  | some (.record schema cells) => ⟨schema, cells⟩
  | _ => blank schema

/-- A record as what a destination holds. -/
def content (record : Record) : Content := .record record.schema record.cells

theorem cellAt?_setCell_self (place : Place) (content : Content)
    (cells : List (Place × Content)) :
    cellAt? place (setCell place content cells) = some content := by
  induction cells with
  | nil => simp [setCell, cellAt?]
  | cons cell rest ih => by_cases h : cell.1 = place <;> simp [setCell, cellAt?, h, ih]

theorem cellAt?_setCell_of_ne {place other : Place} (h : place ≠ other) (content : Content)
    (cells : List (Place × Content)) :
    cellAt? other (setCell place content cells) = cellAt? other cells := by
  induction cells with
  | nil => simp [setCell, cellAt?, h]
  | cons cell rest ih =>
    by_cases hc : cell.1 = place
    · simp [setCell, cellAt?, hc, h]
    · simp [setCell, cellAt?, hc, ih]

@[simp] theorem get?_set_self (record : Record) (place : Place) (content : Content) :
    (record.set place content).get? place = some content :=
  cellAt?_setCell_self place content record.cells

theorem get?_set_of_ne (record : Record) {place other : Place} (h : place ≠ other)
    (content : Content) : (record.set place content).get? other = record.get? other :=
  cellAt?_setCell_of_ne h content record.cells

end Record

end SchemaMatch
