import SchemaMatch.Unicode.Age
import SchemaMatch.Unicode.Alias
import SchemaMatch.Unicode.CharClass
import SchemaMatch.Unicode.Script
import SchemaMatch.Unicode.ScriptExtension

/-!
# Properties by name

A class of characters can be asked for by one name, which is that of a binary property, a general
category or a script, or by the name of a property and the name of one of its values. Names are
compared in their reduced form.
-/

namespace SchemaMatch.Unicode.Property

/-- Why a class has no meaning. -/
inductive LookupError
  | unknownProperty
  | unknownValue
  deriving DecidableEq, Repr

/-- The general category of a reduced name, under its long name. -/
def category? (reduced : String) : Option String :=
  match reduced with
  | "any" => some "Any"
  | "assigned" => some "Assigned"
  | "ascii" => some "ASCII"
  | _ => Alias.canonical? Alias.categories reduced

def valueSet (found : Option CodeSet) : Except LookupError CodeSet :=
  found.elim (.error .unknownValue) .ok

/-- The long name of a binary property. Three names are those of categories instead. -/
def binary? (reduced : String) : Option String :=
  if reduced == "cf" || reduced == "sc" || reduced == "lc" then none
  else Alias.canonical? Alias.properties reduced

def byName (name : String) : Except LookupError CodeSet :=
  let reduced := Alias.reduce name
  match binary? reduced with
  | some property => (Trait.ofName? property).elim (.error .unknownProperty) .ok
  | none =>
    match category? reduced with
    | some category => valueSet (GeneralCategory.ofName? category)
    | none =>
      match Alias.canonical? Alias.scripts reduced with
      | some script => valueSet (Script.ofName? script)
      | none => .error .unknownProperty

def valueOf (aliases : List String) (set? : String → Option CodeSet) (reduced : String) :
    Except LookupError CodeSet :=
  valueSet (Alias.canonical? aliases reduced >>= set?)

def byValue (property value : String) : Except LookupError CodeSet :=
  let reduced := Alias.reduce value
  match Alias.canonical? Alias.properties (Alias.reduce property) with
  | none => .error .unknownProperty
  | some "General_Category" => valueSet (category? reduced >>= GeneralCategory.ofName?)
  | some "Script" => valueOf Alias.scripts Script.ofName? reduced
  | some "Script_Extensions" => valueOf Alias.scripts ScriptExtension.ofName? reduced
  | some "Age" => valueOf Alias.ages Age.ofName? reduced
  | some "Grapheme_Cluster_Break" => valueOf Alias.clusterBreaks Break.cluster? reduced
  | some "Sentence_Break" => valueOf Alias.sentenceBreaks Break.sentence? reduced
  | some "Word_Break" => valueOf Alias.wordBreaks Break.word? reduced
  | some _ => .error .unknownValue

end SchemaMatch.Unicode.Property
