import SchemaMatch.Stencil.Basic

/-!
# Printing stencils

A stencil prints as a tree with one line for each slot and one for each separator. Where a line
would stand below the greatest depth, an ellipsis stands in its place and nothing below it is shown.
-/

namespace SchemaMatch

/-- The word for a representation. -/
def Representation.word : Representation → String
  | text => "Text"
  | bytes => "Bytes"
  | submatch => "Submatch"
  | optionalText => "OptionalText"
  | optionalBytes => "OptionalBytes"
  | optionalSubmatch => "OptionalSubmatch"
  | ignore => "Ignore"

structure StencilPrinter where
  /-- What stands once for each level before a line. -/
  indent : String := "  "
  /-- The greatest depth that is shown; all is shown without one. -/
  maxDepth : Option Nat := none
  deriving DecidableEq, Repr

structure TreeLine where
  depth : Nat
  text : String
  deriving DecidableEq, Repr

namespace StencilPrinter

/-- The lines of a part at a depth, or an ellipsis where the depth is too great. -/
def cut (maxDepth : Option Nat) (depth : Nat) (lines : List TreeLine) : List TreeLine :=
  if maxDepth.any (· < depth) then [⟨depth, "..."⟩] else lines

mutual

def stencilLines (maxDepth : Option Nat) (depth : Nat) : Stencil → List TreeLine
  | .mk _ name _ slot fields =>
    cut maxDepth depth (⟨depth, s!"{name} @{slot}"⟩ :: fieldLines maxDepth (depth + 1) fields)

def fieldLines (maxDepth : Option Nat) (depth : Nat) : List FieldStencil → List TreeLine
  | [] => []
  | .separator :: rest =>
    cut maxDepth depth [⟨depth, s!"{Field.separatorName} separator"⟩] ++
      fieldLines maxDepth depth rest
  | .scalar name slot _ representation :: rest =>
    cut maxDepth depth [⟨depth, s!"{name} @{slot} {representation.word}"⟩] ++
      fieldLines maxDepth depth rest
  | .position name slot _ :: rest =>
    cut maxDepth depth [⟨depth, s!"{name} @{slot} Pos"⟩] ++ fieldLines maxDepth depth rest
  | .nested name slot _ _ child :: rest =>
    cut maxDepth depth
        (⟨depth, s!"{name} @{slot}"⟩ :: stencilLines maxDepth (depth + 1) child) ++
      fieldLines maxDepth depth rest
  | .union name slot _ _ capability variants :: rest =>
    cut maxDepth depth
        (⟨depth, s!"{name} @{slot} union {capability}"⟩ ::
          variantLines maxDepth (depth + 1) variants) ++
      fieldLines maxDepth depth rest

def variantLines (maxDepth : Option Nat) (depth : Nat) : List Stencil → List TreeLine
  | [] => []
  | variant :: rest =>
    stencilLines maxDepth depth variant ++ variantLines maxDepth depth rest

end

def lines (printer : StencilPrinter) (stencil : Stencil) : List TreeLine :=
  stencilLines printer.maxDepth 0 stencil

def lineText (printer : StencilPrinter) (line : TreeLine) : String :=
  String.join (List.replicate line.depth printer.indent) ++ line.text ++ "\n"

/-- A stencil as a text. -/
def print (printer : StencilPrinter) (stencil : Stencil) : String :=
  String.join ((printer.lines stencil).map printer.lineText)

end StencilPrinter

/-- A stencil as a text, indented by two blanks. -/
def Stencil.render (stencil : Stencil) : String := StencilPrinter.print {} stencil

end SchemaMatch
