import SchemaMatch.Unicode.Addition
import SchemaMatch.Unicode.Trait

/-!
# Classes of characters

The classes of characters that the readers and matchers of this library ask about. Digits, blanks
and word characters are classes of patterns. Letters, parts of identifiers and what quoted text
shows as it is belong to names and texts, which know the later additions too.
-/

namespace SchemaMatch.Unicode

def digits : CodeSet := GeneralCategory.named "Decimal_Number"

def blanks : CodeSet := Trait.listed "White_Space"

/-- What words are made of: letters, marks, digits, connecting punctuation and joiners. -/
def wordChars : CodeSet :=
  CodeSet.unionAll [Trait.alphabetic, GeneralCategory.named "Mark", digits,
    GeneralCategory.named "Connector_Punctuation", Trait.listed "Join_Control"]

def letters : CodeSet := Trait.alphabetic.union Addition.letters

def numbers : CodeSet := (GeneralCategory.named "Number").union Addition.numbers

/-- What may start an identifier of source code, the underscore apart. -/
def identifierStart : CodeSet :=
  (Trait.identifierStart.diff Trait.unstableStart).union Addition.identifierStarts

def identifierContinue : CodeSet :=
  (Trait.identifierContinue.diff Trait.unstableContinue).union Addition.identifierParts

/-- What joins the character before it, save for two marks that stand for themselves. -/
def joining : CodeSet :=
  (Trait.graphemeExtend.union Addition.extenders).diff (CodeSet.ofText ["FF9E-FF9F"])

/-- What quoted text writes as a numeric escape: what is invisible, unassigned or private, every
blank but the space, what nothing need be shown for, and what joins the character before it. -/
def unprintable : CodeSet :=
  CodeSet.unionAll [
    (CodeSet.unionAll [GeneralCategory.other.diff Addition.assigned,
      GeneralCategory.named "Separator"]).diff (CodeSet.single 0x20),
    Trait.listed "Default_Ignorable_Code_Point",
    joining]

def isBlank (c : Char) : Bool := blanks.has c

def isLetter (c : Char) : Bool := letters.has c

def isLetterOrNumber (c : Char) : Bool := letters.has c || numbers.has c

end SchemaMatch.Unicode
