import SchemaMatch.Derive.Token

/-!
# Looking at tokens

Small questions about the first tokens of a list. A name with a quotation mark in front counts as
one token, and a punctuation of several characters must have them joined.
-/

namespace SchemaMatch.Derive

def keywords : List String :=
  ["_", "abstract", "as", "async", "await", "become", "box", "break", "const", "continue", "crate",
    "do", "dyn", "else", "enum", "extern", "false", "final", "fn", "for", "if", "impl", "in", "let",
    "loop", "macro", "match", "mod", "move", "mut", "override", "priv", "pub", "ref", "return",
    "Self", "self", "static", "struct", "super", "trait", "true", "try", "type", "typeof", "unsafe",
    "unsized", "use", "virtual", "where", "while", "yield"]

namespace Cursor

/-- What a reader leaves of its tokens. -/
abbrev Rest := Option (List Token)

def skipPunct? : List Char → List Token → Rest
  | [], tokens => some tokens
  | [c], .punct d _ :: rest => if c = d then some rest else none
  | c :: more, .punct d true :: rest => if c = d then skipPunct? more rest else none
  | _, _ => none

def startsPunct (text : String) (tokens : List Token) : Bool :=
  (skipPunct? text.toList tokens).isSome

def startsAnyPunct (texts : List String) (tokens : List Token) : Bool :=
  texts.any (startsPunct · tokens)

def skipWord? (text : String) : List Token → Rest
  | .word word :: rest => if word = text then some rest else none
  | _ => none

def startsWord (text : String) (tokens : List Token) : Bool := (skipWord? text tokens).isSome

def startsAnyWord (texts : List String) (tokens : List Token) : Bool :=
  texts.any (startsWord · tokens)

def startsSomeWord : List Token → Bool
  | .word _ :: _ => true
  | _ => false

def startsName : List Token → Bool
  | .word word :: _ => !keywords.contains word
  | _ => false

/-- Past a name with a quotation mark in front. -/
def skipLifetime? : List Token → Rest
  | .punct '\'' true :: .word _ :: rest => some rest
  | _ => none

/-- Whether a name with a quotation mark in front comes first. -/
def startsLifetime (tokens : List Token) : Bool := (skipLifetime? tokens).isSome

/-- Past a literal, a truth value or a negative number. -/
def skipLiteral? : List Token → Rest
  | .literal _ :: rest => some rest
  | .word "true" :: rest => some rest
  | .word "false" :: rest => some rest
  | .punct '-' _ :: .literal literal :: rest => if literal.isNumber then some rest else none
  | _ => none

/-- Whether a literal, a truth value or a negative number comes first. -/
def startsLiteral (tokens : List Token) : Bool := (skipLiteral? tokens).isSome

def startsString : List Token → Bool
  | .literal ⟨_, .string _⟩ :: _ => true
  | _ => false

def startsGroup (delimiter : Delimiter) : List Token → Bool
  | .group found _ :: _ => found = delimiter
  | _ => false

def afterFirst (tokens : List Token) : List Token :=
  (skipLifetime? tokens).getD (tokens.drop 1)

def afterSecond (tokens : List Token) : List Token := afterFirst (afterFirst tokens)

def startsColon (tokens : List Token) : Bool :=
  startsPunct ":" tokens && !startsPunct "::" tokens

def startsDot (tokens : List Token) : Bool := startsPunct "." tokens && !startsPunct ".." tokens

/-- Whether an exclamation mark comes first that is no part of an inequality. -/
def startsBang (tokens : List Token) : Bool := startsPunct "!" tokens && !startsPunct "!=" tokens

def startsPathWord (tokens : List Token) : Bool :=
  startsName tokens || startsAnyWord ["super", "self", "Self", "crate"] tokens

def dropPunct (text : String) (tokens : List Token) : List Token :=
  (skipPunct? text.toList tokens).getD tokens

end Cursor

end SchemaMatch.Derive
