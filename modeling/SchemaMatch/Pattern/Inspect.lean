import SchemaMatch.Pattern.Basic
import SchemaMatch.Regex.Size
import SchemaMatch.Stencil.Printer
import SchemaMatch.Text.Inspect

/-!
# Showing schemas, stencils and patterns to developers

Each type is shown under its name with the fields that tell its values apart.
-/

namespace SchemaMatch

open Text (quoted)
open Text.Inspect

def Options.inspect (options : Options) : String :=
  record "Options" [
    ("case_insensitive", bool options.caseInsensitive),
    ("multi_line", bool options.multiLine),
    ("dot_matches_new_line", bool options.dotMatchesNewLine),
    ("swap_greed", bool options.swapGreed),
    ("ignore_whitespace", bool options.ignoreWhitespace),
    ("unicode", bool options.unicode),
    ("octal", bool options.octal),
    ("nest_limit", toString options.nestLimit),
    ("size_limit", toString options.sizeLimit),
    ("dfa_size_limit", toString options.cacheLimit)]

/-- The word for a role. -/
def Role.word : Role → String
  | scalar => "Scalar"
  | position => "Position"
  | nested => "Nested"
  | union => "Union"

def Field.visibilityWord (field : Field) : String := if field.isHidden then "Hidden" else "Public"

def Field.inspect (field : Field) : String :=
  record "FieldDescriptor" [
    ("name", quoted field.name),
    ("fragment", quoted field.fragment),
    ("role", field.role.word),
    ("visibility", field.visibilityWord),
    ("marker", quoted field.marker)]

def Schema.inspect (schema : Schema) : String :=
  record "Descriptor" [
    ("name", quoted schema.name),
    ("fields", list (schema.fields.map Field.inspect))]

namespace Stencil

mutual

def inspect : Stencil → String
  | mk _ name _ slot fields =>
    record "StructStencil" [
      ("name", quoted name),
      ("slot", toString slot),
      ("fields", list (inspectFields fields))]

def inspectFields : List FieldStencil → List String
  | [] => []
  | field :: rest =>
    record "FieldStencil" [
      ("name", quoted field.name),
      ("slot", optionalNat field.slot?),
      ("kind", inspectKind field)] :: inspectFields rest

def inspectKind : FieldStencil → String
  | .separator => "Separator"
  | .scalar _ _ _ representation => tagged "Scalar" representation.word
  | .position _ _ _ => "Position"
  | .nested _ _ _ _ child => tagged "Nested" (inspect child)
  | .union _ _ _ _ capability variants =>
    tagged "Union" (record "UnionStencil" [
      ("capability", quoted capability),
      ("variants", list (inspectVariants variants))])

def inspectVariants : List Stencil → List String
  | [] => []
  | variant :: rest =>
    record "VariantStencil" [
      ("type_name", quoted variant.typeName),
      ("stencil", inspect variant)] :: inspectVariants rest

end

end Stencil

def Pattern.inspect (pattern : Pattern) : String :=
  record "Pattern" [
    ("schema", quoted pattern.stencil.name),
    ("pattern", quoted pattern.text),
    ("options", pattern.options.inspect)]

end SchemaMatch
