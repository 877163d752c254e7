/-!
# Tokens

The text of a declaration is a tree of tokens: words, punctuation characters, literals, and groups
of tokens in delimiters.
-/

namespace SchemaMatch.Derive

/-- What encloses a group. -/
inductive Delimiter
  | parenthesis
  | bracket
  | brace
  deriving DecidableEq, Repr

def Delimiter.opening : Delimiter → String
  | parenthesis => "("
  | bracket => "["
  | brace => "\x7b"

def Delimiter.closing : Delimiter → String
  | parenthesis => ")"
  | bracket => "]"
  | brace => "\x7d"

inductive LiteralKind
  | string (value : String)
  /-- A whole number, and whether a word follows its digits. -/
  | integer (value : Nat) (suffixed : Bool)
  | float
  /-- A character, a byte, a string of bytes or a mark of what is missing. -/
  | other
  deriving DecidableEq, Repr

/-- A literal as it is written. -/
structure Literal where
  text : String
  kind : LiteralKind
  deriving DecidableEq, Repr

namespace Literal

/-- The whole number that a literal is, if it has no suffix. -/
def plainInteger? : Literal → Option Nat
  | ⟨_, .integer value false⟩ => some value
  | _ => none

def isNumber (literal : Literal) : Bool :=
  match literal.kind with
  | .integer _ _ => true
  | .float => true
  | _ => false

/-- A whole number in decimal digits. -/
def ofNat (value : Nat) : Literal := ⟨toString value, .integer value false⟩

end Literal

/-- A token. -/
inductive Token
  /-- A word, with the mark in front that makes it no keyword if it has one. -/
  | word (text : String)
  /-- A punctuation character, and whether the next one follows it at once. -/
  | punct (char : Char) (joint : Bool)
  | literal (literal : Literal)
  | group (delimiter : Delimiter) (inner : List Token)
  deriving Repr

namespace Token

def ofPunct (text : String) : List Token :=
  spell text.toList
where
  /-- The tokens of the characters, each joined to the next. -/
  spell : List Char → List Token
    | [] => []
    | [c] => [punct c false]
    | c :: rest => punct c true :: spell rest

mutual

def texts : Token → List String
  | word text => [text]
  | punct char _ => [String.singleton char]
  | literal value => [value.text]
  | group delimiter inner => delimiter.opening :: textsAll inner ++ [delimiter.closing]

def textsAll : List Token → List String
  | [] => []
  | token :: rest => texts token ++ textsAll rest

end

def spaced (tokens : List Token) : String := " ".intercalate (textsAll tokens)

mutual

def weight : Token → Nat
  | word _ => 1
  | punct _ _ => 1
  | literal _ => 1
  | group _ inner => weightAll inner + 1

def weightAll : List Token → Nat
  | [] => 0
  | token :: rest => weight token + weightAll rest

end

end Token

end SchemaMatch.Derive
