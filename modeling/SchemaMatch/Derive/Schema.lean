import SchemaMatch.Derive.Attribute
import SchemaMatch.Schema.Basic

/-!
# Deriving schemas

A record with named fields becomes a schema: each field that an attribute or its type gives a role
is declared in order. A field whose name starts with an underscore is hidden.
-/

namespace SchemaMatch.Derive

inductive BuilderCall
  | separator (fragment : String)
  | scalar (name fragment field : String)
  | position (name field : String)
  | nested (holder : Holder) (name marker field : String)
  | union (name marker field : String)
  deriving DecidableEq, Repr

structure SchemaImpl where
  generics : List Token
  self : List Token
  conditions : List Token
  name : String
  calls : List BuilderCall
  deriving Repr

namespace FieldDecl

def isHidden (field : FieldDecl) : Bool := field.name.startsWith "_"

def isPosition (type : TypeShape) : Bool :=
  match type.lastSegment? with
  | some ("Pos", none) => true
  | _ => false

def holder (type : TypeShape) : Holder :=
  match type.lastSegment? with
  | some ("Option", some inner) =>
    match inner.lastSegment? with
    | some ("Box", some _) => .boxed
    | _ => .optional
  | _ => .direct

/-- What a field is: what its attributes say, or a position if they say nothing and its type is
that of positions. -/
def role? (field : FieldDecl) (attributes : FieldAttributes) : Option FieldRole :=
  match attributes.role with
  | some role => some role
  | none => if isPosition field.type then some .position else none

def hiddenCall : FieldRole → Except DeriveError (Option BuilderCall)
  | .scalar fragment => .ok (some (.separator fragment))
  | .position => .ok none
  | .nested _ => .error .hiddenRecord
  | .union _ => .error .hiddenRecord

def visibleCall (field : FieldDecl) (name : String) : FieldRole → Option BuilderCall
  | .scalar fragment => if fragment.isEmpty then none else some (.scalar name fragment field.name)
  | .position => some (.position name field.name)
  | .nested marker => some (.nested (holder field.type) name marker field.name)
  | .union marker => some (.union name marker field.name)

def call? (field : FieldDecl) : Except DeriveError (Option BuilderCall) := do
  let attributes ← FieldAttributes.ofAttributes field.attributes
  match field.role? attributes with
  | none => .ok none
  | some role =>
    if field.isHidden then hiddenCall role
    else .ok (field.visibleCall (attributes.name.getD field.name) role)

/-- How fields are declared, in order. -/
def calls : List FieldDecl → Except DeriveError (List BuilderCall)
  | [] => .ok []
  | field :: rest => do
    let call ← field.call?
    let others ← calls rest
    .ok (call.toList ++ others)

end FieldDecl

def Body.schemaFields : Body → Except DeriveError (List FieldDecl)
  | record (.named fields) => .ok fields
  | record _ => .error .unnamedFields
  | choice _ => .error .schemaOfChoice
  | overlay => .error .schemaOfOverlay

/-- Derives a schema. -/
def Item.deriveSchema (item : Item) : Except DeriveError SchemaImpl := do
  let name ← declaredName item.attributes
  let fields ← item.body.schemaFields
  let calls ← FieldDecl.calls fields
  .ok ⟨item.generics, item.selfType, item.conditions, name.getD item.name, calls⟩

end SchemaMatch.Derive
