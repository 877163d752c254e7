import SchemaMatch.Text.Quoted

/-!
# Showing values to developers

A value is shown on one line: texts in quotes, lists in brackets, and records with the names of
their fields.
-/

namespace SchemaMatch.Text.Inspect

/-- A list of shown values. -/
def list (items : List String) : String := "[" ++ ", ".intercalate items ++ "]"

/-- A record with a name and named fields. -/
def record (name : String) (fields : List (String × String)) : String :=
  name ++ " " ++ braceOpen ++ " " ++
    ", ".intercalate (fields.map fun (field, value) => field ++ ": " ++ value) ++ " " ++ braceClose

def tagged (name value : String) : String := name ++ "(" ++ value ++ ")"

def bool (value : Bool) : String := if value then "true" else "false"

def optionalNat : Option Nat → String
  | none => "None"
  | some value => tagged "Some" (toString value)

end SchemaMatch.Text.Inspect
