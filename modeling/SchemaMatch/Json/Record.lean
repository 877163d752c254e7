import SchemaMatch.Json.Value

/-!
# Records in JSON

A record with named fields is written as an object, whose members may come in any order, or as an
array of the fields in order. An object may have other members, which are ignored, but none of the
fields twice.
-/

namespace SchemaMatch.Json

namespace Value

def nat? : Value → Option Nat
  | nat value => some value
  | _ => none

def text? : Value → Option String
  | string text => text
  | _ => none

def items? : Value → Option (List Value)
  | array items => some items
  | _ => none

end Value

def readNat? (text : String) : Option Nat := (Value.parse? text).bind Value.nat?

/-- The one member with a name; none if it is missing or repeated. -/
def onlyMember? (members : List (Option String × Value)) (name : String) : Option Value :=
  match members.filter (·.1 == some name) with
  | [(_, value)] => some value
  | _ => none

/-- The fields of a record, in the given order. All names of members must have a text. -/
def record? (names : List String) : Value → Option (List Value)
  | .object members =>
    if members.all (·.1.isSome) then names.mapM (onlyMember? members) else none
  | .array items => if items.length == names.length then some items else none
  | _ => none

def escapeChar (c : Char) : String :=
  match c with
  | '"' => "\\\""
  | '\\' => "\\\\"
  | '\x08' => "\\b"
  | '\x0c' => "\\f"
  | '\n' => "\\n"
  | '\r' => "\\r"
  | '\t' => "\\t"
  | _ =>
    if c.toNat < 0x20 then
      let digits := Nat.toDigits 16 c.toNat
      "\\u" ++ String.ofList (List.replicate (4 - digits.length) '0' ++ digits)
    else String.singleton c

def quote (text : String) : String :=
  "\"" ++ String.join (text.toList.map escapeChar) ++ "\""

def arrayText (items : List String) : String := "[" ++ ",".intercalate items ++ "]"

def objectText (members : List (String × String)) : String :=
  "\x7b" ++ ",".intercalate (members.map fun (name, value) => quote name ++ ":" ++ value) ++ "\x7d"

end SchemaMatch.Json
