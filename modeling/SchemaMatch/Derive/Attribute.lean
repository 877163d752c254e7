import SchemaMatch.Derive.Error
import SchemaMatch.Derive.Item

/-!
# Attributes

The attribute of a field lists what the field is and the name it is captured under; that of a
declaration lists its name. Items may have a comma after them. Several attributes on one field count
as one list: what the field is may be said once, and the last name holds.
-/

namespace SchemaMatch.Derive

open Cursor

inductive FieldRole
  | scalar (fragment : String)
  | nested (marker : String)
  | union (marker : String)
  | position
  deriving DecidableEq, Repr

/-- What the attributes of a field say. -/
structure FieldAttributes where
  role : Option FieldRole
  name : Option String
  deriving DecidableEq, Repr

inductive FieldItem
  | role (role : FieldRole)
  | name (name : String)
  deriving DecidableEq, Repr

def attributeName : String := "restructure"

def optionalMarker : String := "?"

def stringItem : List Token → Except DeriveError (String × List Token)
  | .literal ⟨_, .string value⟩ :: rest => .ok (value, rest)
  | tokens => .error (.expectedString tokens.isEmpty)

/-- Reads the marker after an equals sign; without the sign it is empty. -/
def markerItem (tokens : List Token) : Except DeriveError (String × List Token) :=
  match skipPunct? ['='] tokens with
  | none => .ok ("", tokens)
  | some rest => stringItem rest

def nameItem (tokens : List Token) : Except DeriveError (String × List Token) :=
  match skipPunct? ['='] tokens with
  | none => .error .expectedEquals
  | some rest => stringItem rest

namespace FieldAttributes

/-- What an attribute without items says. -/
def blank : FieldAttributes := ⟨none, none⟩

def roleOfString (value : String) : FieldRole :=
  if value = optionalMarker then .nested value else .scalar value

/-- Reads an item. -/
def item : List Token → Except DeriveError (FieldItem × List Token)
  | .literal ⟨_, .string value⟩ :: rest => .ok (.role (roleOfString value), rest)
  | .word "nested" :: rest => do
    let (marker, rest) ← markerItem rest
    .ok (.role (.nested marker), rest)
  | .word "optional" :: rest => .ok (.role (.nested optionalMarker), rest)
  | .word "union" :: rest => do
    let (marker, rest) ← markerItem rest
    .ok (.role (.union marker), rest)
  | .word "pos" :: rest => .ok (.role .position, rest)
  | .word "name" :: rest => do
    let (name, rest) ← nameItem rest
    .ok (.name name, rest)
  | _ => .error .expectedFieldItem

def addRole (attributes : FieldAttributes) (role : FieldRole) :
    Except DeriveError FieldAttributes :=
  match attributes.role with
  | none => .ok { attributes with role := some role }
  | some _ => .error .repeatedRole

def add (attributes : FieldAttributes) : FieldItem → Except DeriveError FieldAttributes
  | .role role => attributes.addRole role
  | .name name => .ok { attributes with name := some name }

/-- Reads items up to the end. The first argument bounds their number. -/
def readItems : Nat → FieldAttributes → List Token → Except DeriveError FieldAttributes
  | _, attributes, [] => .ok attributes
  | 0, _, _ :: _ => .error .expectedFieldItem
  | bound + 1, attributes, token :: rest => do
    let (item, rest) ← item (token :: rest)
    readItems bound (← attributes.add item) (dropPunct "," rest)

/-- What the tokens of an attribute say. -/
def ofTokens (tokens : List Token) : Except DeriveError FieldAttributes :=
  readItems tokens.length blank tokens

def merge (attributes more : FieldAttributes) : Except DeriveError FieldAttributes := do
  let attributes ← match more.role with
    | none => .ok attributes
    | some role => attributes.addRole role
  match more.name with
  | none => .ok attributes
  | some name => .ok { attributes with name := some name }

end FieldAttributes

/-- The tokens between the parentheses of an attribute. -/
def AttributeBody.tokens : AttributeBody → Except DeriveError (List Token)
  | bare => .error .missingArguments
  | list inner => .ok inner
  | value => .error .argumentsWithoutParentheses

/-- The attributes that are read, by what stands after their names. -/
def relevant (attributes : List Attribute) : List AttributeBody :=
  (attributes.filter (·.name == some attributeName)).map (·.body)

def FieldAttributes.mergeAll (attributes : FieldAttributes) :
    List AttributeBody → Except DeriveError FieldAttributes
  | [] => .ok attributes
  | body :: rest => do
    let more ← ofTokens (← body.tokens)
    mergeAll (← attributes.merge more) rest

/-- What the attributes of a field say. -/
def FieldAttributes.ofAttributes (attributes : List Attribute) :
    Except DeriveError FieldAttributes :=
  mergeAll blank (relevant attributes)

/-- Reads the names in an attribute of a declaration up to the end. The first argument bounds their
number; the last name holds, and the one given if there is none. -/
def readNames : Nat → Option String → List Token → Except DeriveError (Option String)
  | _, name, [] => .ok name
  | bound + 1, _, .word "name" :: rest => do
    let (name, rest) ← nameItem rest
    readNames bound (some name) (dropPunct "," rest)
  | _, _, _ :: _ => .error .expectedName

/-- The name that attributes of a declaration give, or the one given if they give none. -/
def readAllNames (name : Option String) :
    List AttributeBody → Except DeriveError (Option String)
  | [] => .ok name
  | body :: rest => do
    let tokens ← body.tokens
    readAllNames (← readNames tokens.length name tokens) rest

/-- The name that the attributes of a declaration give. -/
def declaredName (attributes : List Attribute) : Except DeriveError (Option String) :=
  readAllNames none (relevant attributes)

end SchemaMatch.Derive
