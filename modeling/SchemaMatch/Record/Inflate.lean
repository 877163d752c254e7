import SchemaMatch.Error
import SchemaMatch.Match
import SchemaMatch.Record.Access
import SchemaMatch.Stencil.Basic
import SchemaMatch.Text.Slice

/-!
# Inflating a match

A match is written to a record field by field, in order. A field that took no part keeps what its
destination holds. A record that a field holds is made if there is none, and is changed in place; a
variant always starts from a blank record. The first error ends the writing, and what has been
written up to there stays. Whether a record and a spot in it are of the right type is looked up when
they are reached.
-/

namespace SchemaMatch

/-- A record after writing, and the error that ended it. -/
structure Inflated where
  record : Record
  error? : Option MatchError

namespace Inflated

def typeName (representation : Representation) : String :=
  (ScalarType.storable representation).name

/-- What a representation stores of a region whose text is given; none if it stores nothing. -/
def stored? (representation : Representation) (region : Region) (text : String) :
    Option Content :=
  match representation with
  | .text => some (.text text)
  | .optionalText => some (.text text)
  | .bytes => some (.bytes (Text.utf8 text))
  | .optionalBytes => some (.bytes (Text.utf8 text))
  | .submatch => some (.submatch ⟨region, Text.utf8 text⟩)
  | .optionalSubmatch => some (.submatch ⟨region, Text.utf8 text⟩)
  | .ignore => none

/-- Stores a region of an input at a spot. It has to be a slice, and the spot of the type of the
representation. -/
def store? (input : String) (region : Region) (representation : Representation) (spot : Spot)
    (record : Record) : Option Record :=
  match Text.slice? input region with
  | none => none
  | some text =>
    if spot.place.type ≠ .scalar representation then none
    else
      match stored? representation region text with
      | none => some record
      | some content => some (spot.put content record)

/-- The record that a field goes on with: what is held at a spot, or a blank record. -/
def ensure? (holder : Holder) (schema : SchemaId) (spot : Spot) (record : Record) :
    Option Record :=
  if spot.place.type ≠ .nested holder schema then none
  else some ((record.descend spot.through).child spot.place schema)

def assign? (capability : CapabilityId) (variant : Record) (spot : Spot) (record : Record) :
    Option Record :=
  if spot.place.type ≠ .union capability then none else some (spot.put variant.content record)

/-- A variant is wrapped once it has been written, if it is what its constructor takes. -/
def wrap (variant : Stencil) (written : Inflated) : Inflated :=
  match written with
  | ⟨record, some error⟩ => ⟨record, some error⟩
  | ⟨record, none⟩ =>
    if record.schema ≠ variant.schema then
      ⟨record, some (.destinationTypeMismatch variant.typeName)⟩
    else ⟨record, none⟩

variable (accessors : Accessors) (m : Match)

def writeScalar (schema : SchemaId) (owner name : String) (slot dest : Nat)
    (representation : Representation) (record : Record) : Inflated :=
  match m.region? slot with
  | none => ⟨record, none⟩
  | some region =>
    match accessors.reach? schema ⟨dest, .scalar representation⟩ record with
    | none => ⟨record, some (.destinationTypeMismatch owner)⟩
    | some spot =>
      match store? m.input region representation spot record with
      | none =>
        ⟨record, some (.unsupportedFieldRepresentation name (typeName representation))⟩
      | some written => ⟨written, none⟩

def writePosition (schema : SchemaId) (owner name : String) (slot dest : Nat)
    (record : Record) : Inflated :=
  match m.region? slot with
  | none => ⟨record, none⟩
  | some region =>
    match accessors.reach? schema ⟨dest, .position⟩ record with
    | none => ⟨record, some (.destinationTypeMismatch owner)⟩
    | some spot =>
      if spot.place.type ≠ .position then
        ⟨record, some (.unsupportedFieldRepresentation name ScalarType.positionName)⟩
      else ⟨spot.put (.position region.start) record, none⟩

mutual

def ofStencil : Stencil → Record → Inflated
  | .mk schema name _ slot fields, record =>
    if m.hasSlot slot then ofFields schema name fields record else ⟨record, none⟩

def ofFields (schema : SchemaId) (owner : String) : List FieldStencil → Record → Inflated
  | [], record => ⟨record, none⟩
  | field :: rest, record =>
    match ofField schema owner field record with
    | ⟨record, none⟩ => ofFields schema owner rest record
    | ⟨record, some error⟩ => ⟨record, some error⟩

def ofField (schema : SchemaId) (owner : String) : FieldStencil → Record → Inflated
  | .separator, record => ⟨record, none⟩
  | .scalar name slot dest representation, record =>
    writeScalar accessors m schema owner name slot dest representation record
  | .position name slot dest, record =>
    writePosition accessors m schema owner name slot dest record
  | .nested _ _ dest holder child, record =>
    if !m.hasSlot child.slot then ⟨record, none⟩
    else
      match accessors.reach? schema ⟨dest, .nested holder child.schema⟩ record with
      | none => ⟨record, some (.destinationTypeMismatch owner)⟩
      | some spot =>
        match ensure? holder child.schema spot record with
        | none => ⟨record, some (.destinationTypeMismatch child.name)⟩
        | some inner =>
          let written := ofStencil child inner
          ⟨spot.put written.record.content record, written.error?⟩
  | .union _ _ dest capability capabilityName variants, record =>
    match ofVariants variants with
    | none => ⟨record, none⟩
    | some ⟨_, some error⟩ => ⟨record, some error⟩
    | some ⟨variant, none⟩ =>
      match accessors.reach? schema ⟨dest, .union capability⟩ record with
      | none => ⟨record, some (.destinationTypeMismatch owner)⟩
      | some spot =>
        match assign? capability variant spot record with
        | none => ⟨record, some (.destinationTypeMismatch capabilityName)⟩
        | some written => ⟨written, none⟩

/-- Writes the first variant that took part to a blank record. -/
def ofVariants : List Stencil → Option Inflated
  | [] => none
  | variant :: rest =>
    if m.hasSlot variant.slot then
      some (wrap variant (ofStencil variant (Record.blank variant.schema)))
    else ofVariants rest

end

end Inflated

namespace Stencil

/-- Writes a match to a record through some accessors. -/
def inflateBy (accessors : Accessors) (stencil : Stencil) (m : Match) (record : Record) : Inflated :=
  Inflated.ofStencil accessors m stencil record

/-- Writes a match to a record. -/
def inflate (stencil : Stencil) (m : Match) (record : Record) : Inflated :=
  stencil.inflateBy .plain m record

end Stencil

end SchemaMatch
