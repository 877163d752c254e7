/-!
# Schemas

A schema lists the fields of a record in order. A family holds schemas that refer to each other by
number, and names the capabilities that union fields refer to. Each field says what it matches and
which destination of the record it writes to.
-/

namespace SchemaMatch

/-- The number of a schema in its family. -/
abbrev SchemaId := Nat

/-- The number of a capability in its family. -/
abbrev CapabilityId := Nat

/-- How a destination stores captured text. -/
inductive Representation
  | text
  | bytes
  | submatch
  | optionalText
  | optionalBytes
  | optionalSubmatch
  /-- Nothing is stored. -/
  | ignore
  deriving DecidableEq, Repr

/-- The type of the destination of a captured field. -/
inductive ScalarType
  | storable (representation : Representation)
  /-- A type that cannot hold text, known by its name. -/
  | other (name : String)
  deriving DecidableEq, Repr

namespace ScalarType

/-- The name of a type that holds text when it is not absent. -/
def optionalName (name : String) : String := s!"core::option::Option<{name}>"

def textName : String := "alloc::string::String"

def bytesName : String := "alloc::vec::Vec<u8>"

def submatchName : String := "restructure::submatch::Submatch"

def positionName : String := "restructure::submatch::Pos"

/-- The name of a type. -/
def name : ScalarType → String
  | storable .text => textName
  | storable .bytes => bytesName
  | storable .submatch => submatchName
  | storable .optionalText => optionalName textName
  | storable .optionalBytes => optionalName bytesName
  | storable .optionalSubmatch => optionalName submatchName
  | storable .ignore => "()"
  | other name => name

def representation? : ScalarType → Option Representation
  | storable representation => some representation
  | other _ => none

end ScalarType

/-- How a record holds a record of another schema. -/
inductive Holder
  /-- It is always there. -/
  | direct
  | optional
  /-- Like `optional`, in a box of its own. -/
  | boxed
  deriving DecidableEq, Repr

def Holder.canBeAbsent : Holder → Bool
  | direct => false
  | optional => true
  | boxed => true

/-- Whether a part may be absent. -/
inductive Cardinality
  | required
  | optional
  deriving DecidableEq, Repr

def Cardinality.ofMarker? (marker : String) : Option Cardinality :=
  if marker = "" then some .required
  else if marker = "?" then some .optional
  else none

inductive FieldKind
  /-- Must match and writes nothing. -/
  | separator (fragment : String)
  | scalar (fragment : String) (type : ScalarType)
  /-- Matches the empty text and writes where it stands. -/
  | position
  | nested (marker : String) (holder : Holder) (schema : SchemaId)
  /-- One of the variants of a capability. -/
  | union (marker : String) (capability : CapabilityId)
  deriving DecidableEq, Repr

structure Field where
  name : String
  kind : FieldKind
  /-- The number of the destination that it writes to. -/
  dest : Nat
  deriving DecidableEq, Repr

inductive Role
  | scalar
  | position
  | nested
  | union
  deriving DecidableEq, Repr

namespace Field

def separatorName : String := "_"

/-- A separator. -/
def separator (fragment : String) : Field := ⟨separatorName, .separator fragment, 0⟩

/-- What a field is for. -/
def role (field : Field) : Role :=
  match field.kind with
  | .separator _ => .scalar
  | .scalar _ _ => .scalar
  | .position => .position
  | .nested _ _ _ => .nested
  | .union _ _ => .union

def isHidden (field : Field) : Bool :=
  match field.kind with
  | .separator _ => true
  | _ => false

/-- The fragment of a field; it is empty where the field takes none. -/
def fragment (field : Field) : String :=
  match field.kind with
  | .separator fragment => fragment
  | .scalar fragment _ => fragment
  | _ => ""

/-- The marker of a field; it is empty where the field takes none. -/
def marker (field : Field) : String :=
  match field.kind with
  | .nested marker _ _ => marker
  | .union marker _ => marker
  | _ => ""

end Field

/-- The fields of a record, in order. -/
structure Schema where
  name : String
  /-- The name of the type that the records have. -/
  typeName : String
  fields : List Field
  deriving DecidableEq, Repr

def Schema.undescribed : Schema := ⟨"", "", []⟩

/-- Schemas and capabilities by number. -/
structure Family where
  schemas : List Schema
  /-- The names of the capabilities. -/
  capabilities : List String
  deriving DecidableEq, Repr

namespace Family

/-- The schema with a number. -/
def schema (family : Family) (id : SchemaId) : Schema :=
  (family.schemas[id]?).getD Schema.undescribed

def capabilityName (family : Family) (id : CapabilityId) : String :=
  (family.capabilities[id]?).getD ""

def redefine (family : Family) (id : SchemaId) (schema : Schema) : Family :=
  { family with schemas := family.schemas.set id schema }

end Family

end SchemaMatch
