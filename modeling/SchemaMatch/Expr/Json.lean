import SchemaMatch.Expr.Basic
import SchemaMatch.Json.Record

/-!
# Pattern trees in JSON

A node is an object with one member, whose name says the kind of the node. Reading goes down at
most 127 levels of objects and arrays.
-/

namespace SchemaMatch.Expr

open Json (Value)

def maxLevels : Nat := 127

/-- The tree that a value describes; the first argument bounds the levels of nesting. -/
def ofValue? : Nat → Value → Option Expr
  | levels + 2, .object [(some "Concat", .array items)] =>
    concat <$> items.mapM (ofValue? levels)
  | levels + 2, .object [(some "Alternation", .array items)] =>
    alternation <$> items.mapM (ofValue? levels)
  | levels + 2, .object [(some "Capture", value)] => do
    match ← Json.record? ["slot", "name", "expr"] value with
    | [slot, name, expr] => return capture (← slot.nat?) (← name.text?) (← ofValue? levels expr)
    | _ => none
  | levels + 1, .object [(some "Optional", value)] => optional <$> ofValue? levels value
  | _ + 1, .object [(some "Fragment", value)] => fragment <$> value.text?
  | _, _ => none

/-- Reads a tree. -/
def ofJson? (text : String) : Option Expr := do
  ofValue? maxLevels (← Value.parse? text)

mutual

/-- The JSON text of a tree. -/
def toJson : Expr → String
  | fragment text => Json.objectText [("Fragment", Json.quote text)]
  | concat items => Json.objectText [("Concat", Json.arrayText (toJsonAll items))]
  | capture slot name expr =>
    Json.objectText [("Capture", Json.objectText
      [("slot", toString slot), ("name", Json.quote name), ("expr", toJson expr)])]
  | optional expr => Json.objectText [("Optional", toJson expr)]
  | alternation branches =>
    Json.objectText [("Alternation", Json.arrayText (toJsonAll branches))]

def toJsonAll : List Expr → List String
  | [] => []
  | expr :: rest => toJson expr :: toJsonAll rest

end

end SchemaMatch.Expr
