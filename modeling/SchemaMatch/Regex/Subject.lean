/-!
# The text that is searched

A text is searched character by character; a position is the number of characters before it. What
is reported outside counts bytes, so a position has a byte offset.
-/

namespace SchemaMatch.Regex

/-- A text that is searched. -/
structure Subject where
  chars : Array Char
  deriving Repr

namespace Subject

/-- The characters of a text. -/
def ofString (text : String) : Subject := ⟨text.toList.toArray⟩

/-- The position at the end. -/
def size (subject : Subject) : Nat := subject.chars.size

def after? (subject : Subject) (position : Nat) : Option Char := subject.chars[position]?

def textEnd? (subject : Subject) : List Char → Nat → Option Nat
  | [], position => some position
  | c :: rest, position =>
    if subject.after? position = some c then subject.textEnd? rest (position + 1) else none

def before? (subject : Subject) : Nat → Option Char
  | 0 => none
  | position + 1 => subject.chars[position]?

def byteOffset (subject : Subject) (position : Nat) : Nat :=
  (subject.chars.take position).foldl (fun bytes c => bytes + c.utf8Size) 0

end Subject

end SchemaMatch.Regex
