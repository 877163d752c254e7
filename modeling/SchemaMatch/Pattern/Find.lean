import SchemaMatch.Pattern.Basic
import SchemaMatch.Record.Inflate

/-!
# Matching with patterns

Every way to match starts from the regions that the engine reports and writes them to records. The
leftmost match goes to a record that is given or to a blank one; all matches go to a blank record
each.
-/

namespace SchemaMatch.Pattern

/-- The leftmost match of an input. -/
def match? (pattern : Pattern) (input : String) : Option Match :=
  (pattern.regex.find? input).map (⟨input, ·⟩)

/-- The matches of an input that follow each other without overlap. -/
def allMatches (pattern : Pattern) (input : String) : List Match :=
  (pattern.regex.findAll input).map (⟨input, ·⟩)

/-- The record that nothing has been written to. -/
def blank (pattern : Pattern) : Record := Record.blank pattern.stencil.schema

/-- Writes the leftmost match to a record, and tells whether there is one. -/
def find (pattern : Pattern) (record : Record) (input : String) :
    Record × Except MatchError Bool :=
  match pattern.match? input with
  | none => (record, .ok false)
  | some m =>
    match pattern.stencil.inflate m record with
    | ⟨record, none⟩ => (record, .ok true)
    | ⟨record, some error⟩ => (record, .error error)

/-- The leftmost match as a record. -/
def parse (pattern : Pattern) (input : String) : Except MatchError (Option Record) :=
  match pattern.find pattern.blank input with
  | (record, .ok true) => .ok (some record)
  | (_, .ok false) => .ok none
  | (_, .error error) => .error error

/-- Writes matches to blank records and puts each, as the list holds it, after those before it. The
first error ends it. -/
def collect {α : Type} (pattern : Pattern) (hold : Record → α) :
    List Match → List α → List α × Option MatchError
  | [], held => (held, none)
  | m :: rest, held =>
    match pattern.stencil.inflate m pattern.blank with
    | ⟨record, none⟩ => collect pattern hold rest (held ++ [hold record])
    | ⟨_, some error⟩ => (held, some error)

/-- Up to a number of matches, in order. -/
def limited (limit : Option Nat) (matchList : List Match) : List Match :=
  match limit with
  | none => matchList
  | some limit => matchList.take limit

/-- Replaces what a list holds by up to a number of matches. -/
def findAllInto {α : Type} (pattern : Pattern) (hold : Record → α) (_held : List α)
    (input : String) (limit : Option Nat) : List α × Option MatchError :=
  pattern.collect hold (limited limit (pattern.allMatches input)) []

/-- Up to a number of matches as records. -/
def findAll (pattern : Pattern) (input : String) (limit : Option Nat) :
    Except MatchError (List Record) :=
  match pattern.findAllInto id [] input limit with
  | (records, none) => .ok records
  | (_, some error) => .error error

/-- Whether an input holds a match. -/
def isMatch (pattern : Pattern) (input : String) : Bool := pattern.regex.isMatch input

def parseBatch (pattern : Pattern) (inputs : List String) :
    List (Except MatchError (Option Record)) :=
  inputs.map pattern.parse

def findAllBatch (pattern : Pattern) (inputs : List String) (limit : Option Nat) :
    List (Except MatchError (List Record)) :=
  inputs.map (pattern.findAll · limit)

end SchemaMatch.Pattern
