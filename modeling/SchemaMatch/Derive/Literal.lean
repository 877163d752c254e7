import SchemaMatch.Derive.Token
import SchemaMatch.Unicode.CharClass

/-!
# Reading literals

A literal is a string, a byte string, a string that ends in a zero byte, a byte, a character or a
number; these are tried in this order. Any word may follow it as a suffix. Carriage returns stand
only before line feeds.
-/

namespace SchemaMatch.Derive

def isWordStart (c : Char) : Bool := c == '_' || Unicode.identifierStart.has c

def isWordPart (c : Char) : Bool := Unicode.identifierContinue.has c

def plainWord? : List Char → Option (List Char × List Char)
  | c :: rest =>
    if isWordStart c then some (c :: rest.takeWhile isWordPart, rest.dropWhile isWordPart)
    else none
  | [] => none

namespace Literal

/-- What a reader leaves of its characters. -/
abbrev Rest := Option (List Char)

def skipSuffix (chars : List Char) : List Char :=
  match plainWord? chars with
  | some (_, rest) => rest
  | none => chars

def skip? : List Char → List Char → Rest
  | [], chars => some chars
  | _ :: _, [] => none
  | expected :: more, c :: rest => if c = expected then skip? more rest else none

def hexDigit? (c : Char) : Option Nat :=
  if c.isDigit then some (c.toNat - 48)
  else if 'a' ≤ c ∧ c ≤ 'f' then some (c.toNat - 87)
  else if 'A' ≤ c ∧ c ≤ 'F' then some (c.toNat - 55)
  else none

def charOf? (code : Nat) : Option Char :=
  if h : code.isValidChar then some (Char.ofNatAux code h) else none

/-- Reads the code point of an escape after its opening brace: up to six digits, with underscores
after the first. -/
def codePoint? (count value : Nat) : List Char → Option (Char × List Char)
  | [] => none
  | c :: rest =>
    if c == '_' && count != 0 then codePoint? count value rest
    else if c == '\x7d' && count != 0 then (charOf? value).map (·, rest)
    else
      match hexDigit? c with
      | some digit => if count < 6 then codePoint? (count + 1) (16 * value + digit) rest else none
      | none => none

/-- The character that a letter after a backslash stands for. -/
def letterEscape? : Char → Option Char
  | 'n' => some '\n'
  | 'r' => some '\r'
  | 't' => some '\t'
  | '\\' => some '\\'
  | '0' => some '\x00'
  | '\'' => some '\''
  | '"' => some '"'
  | _ => none

def escape? : List Char → Option (Char × List Char)
  | 'x' :: a :: b :: rest => do
    let code := 16 * (← hexDigit? a) + (← hexDigit? b)
    if code < 0x80 then some (Char.ofNat code, rest) else none
  | 'u' :: '\x7b' :: rest => codePoint? 0 0 rest
  | c :: rest => (letterEscape? c).map (·, rest)
  | [] => none

def byteEscape? : List Char → Rest
  | 'x' :: a :: b :: rest =>
    if (hexDigit? a).isSome && (hexDigit? b).isSome then some rest else none
  | c :: rest => (letterEscape? c).map fun _ => rest
  | [] => none

/-- Past an escape in a string that ends in a zero byte, after its backslash. The escape must not be
a zero itself. -/
def nonzeroEscape? : List Char → Rest
  | 'x' :: a :: b :: rest => do
    if 16 * (← hexDigit? a) + (← hexDigit? b) = 0 then none else some rest
  | 'u' :: '\x7b' :: rest => do
    let (c, rest) ← codePoint? 0 0 rest
    if c = '\x00' then none else some rest
  | c :: rest => if c = '0' then none else (letterEscape? c).map fun _ => rest
  | [] => none

/-- Past the spaces, tabs and ends of lines that a backslash at the end of a line skips. -/
def skipContinued : List Char → Rest
  | '\r' :: '\n' :: rest => skipContinued rest
  | '\r' :: _ => none
  | c :: rest => if [' ', '\t', '\n'].contains c then skipContinued rest else some (c :: rest)
  | [] => none

/-- Reads the inside of a string and its closing quote. The first argument bounds the characters
that are left. -/
def stringBody : Nat → List Char → Option (List Char × List Char)
  | 0, _ => none
  | _ + 1, '"' :: rest => some ([], rest)
  | bound + 1, '\r' :: '\n' :: rest => do
    let (value, rest) ← stringBody bound rest
    some ('\n' :: value, rest)
  | _ + 1, '\r' :: _ => none
  | bound + 1, '\\' :: '\n' :: rest => do stringBody bound (← skipContinued rest)
  | bound + 1, '\\' :: '\r' :: rest => do stringBody bound (← skipContinued ('\r' :: rest))
  | bound + 1, '\\' :: rest => do
    let (c, rest) ← escape? rest
    let (value, rest) ← stringBody bound rest
    some (c :: value, rest)
  | bound + 1, c :: rest => do
    let (value, rest) ← stringBody bound rest
    some (c :: value, rest)
  | _ + 1, [] => none

/-- Past the inside of a string whose characters must be admitted and whose escapes are read as
given, and past its closing quote. The first argument bounds the characters that are left. -/
def plainBody (admits : Char → Bool) (escape : List Char → Rest) : Nat → List Char → Rest
  | 0, _ => none
  | _ + 1, '"' :: rest => some rest
  | bound + 1, '\r' :: '\n' :: rest => plainBody admits escape bound rest
  | _ + 1, '\r' :: _ => none
  | bound + 1, '\\' :: '\n' :: rest => do
    plainBody admits escape bound (← skipContinued rest)
  | bound + 1, '\\' :: '\r' :: rest => do
    plainBody admits escape bound (← skipContinued ('\r' :: rest))
  | bound + 1, '\\' :: rest => do plainBody admits escape bound (← escape rest)
  | bound + 1, c :: rest => if admits c then plainBody admits escape bound rest else none
  | _ + 1, [] => none

/-- Reads the inside of a raw string and what closes it: a quote and the hashes. -/
def rawBody (admits : Char → Bool) (hashes : List Char) :
    List Char → Option (List Char × List Char)
  | '\r' :: '\n' :: rest => do
    let (value, rest) ← rawBody admits hashes rest
    some ('\r' :: '\n' :: value, rest)
  | '\r' :: _ => none
  | c :: rest =>
    if c = '"' ∧ (skip? hashes rest).isSome then some ([], rest.drop hashes.length)
    else if admits c then do
      let (value, rest) ← rawBody admits hashes rest
      some (c :: value, rest)
    else none
  | [] => none

/-- Reads a raw string after the letter that makes it one. -/
def raw? (admits : Char → Bool) (chars : List Char) : Option (List Char × List Char) := do
  let hashes := chars.takeWhile (· == '#')
  if 255 < hashes.length then none
  let rest ← skip? ['"'] (chars.drop hashes.length)
  rawBody admits hashes rest

def string? : List Char → Option (LiteralKind × List Char)
  | '"' :: rest => do
    let (value, rest) ← stringBody (rest.length + 1) rest
    some (.string (String.ofList value), skipSuffix rest)
  | 'r' :: rest => do
    let (value, rest) ← raw? (fun _ => true) rest
    some (.string (String.ofList value), skipSuffix rest)
  | _ => none

def isAscii (c : Char) : Bool := c.toNat < 0x80

def isNonzero (c : Char) : Bool := c != '\x00'

def byteString? : List Char → Rest
  | 'b' :: '"' :: rest => plainBody isAscii byteEscape? (rest.length + 1) rest
  | 'b' :: 'r' :: rest => (raw? isAscii rest).map (·.2)
  | _ => none

def zeroString? : List Char → Rest
  | 'c' :: '"' :: rest => plainBody isNonzero nonzeroEscape? (rest.length + 1) rest
  | 'c' :: 'r' :: rest => (raw? isNonzero rest).map (·.2)
  | _ => none

def byte? : List Char → Rest
  | 'b' :: '\'' :: '\\' :: rest => do skip? ['\''] (← byteEscape? rest)
  | 'b' :: '\'' :: c :: rest => if isAscii c then skip? ['\''] rest else none
  | _ => none

def char? : List Char → Rest
  | '\'' :: '\\' :: rest => do skip? ['\''] (← escape? rest).2
  | '\'' :: _ :: rest => skip? ['\''] rest
  | _ => none

/-- Past the word that may follow the digits of a number, if the number ends there. -/
def numberEnd? (chars : List Char) : Rest :=
  let rest := skipSuffix chars
  if rest.head?.any isWordPart then none else some rest

def isDigitOrGap (c : Char) : Bool := c.isDigit || c == '_'

/-- Past an exponent after its letter, if it has a digit. -/
def exponent? (chars : List Char) : Rest :=
  let rest := chars.dropWhile (· == '_')
  let rest := match rest with
    | '+' :: rest => rest
    | '-' :: rest => rest
    | rest => rest
  if (rest.takeWhile isDigitOrGap).any Char.isDigit then some (rest.dropWhile isDigitOrGap)
  else none

def isExponentLetter (c : Char) : Bool := c == 'e' || c == 'E'

def skipExponent : List Char → List Char
  | c :: rest => if isExponentLetter c then (exponent? rest).getD (c :: rest) else c :: rest
  | [] => []

/-- Past a number with a fraction or an exponent. -/
def float? (chars : List Char) : Rest := do
  if !chars.head?.any Char.isDigit then none
  match chars.dropWhile isDigitOrGap with
  | '.' :: rest =>
    if rest.head?.any fun c => c == '.' || isWordStart c then none
    else numberEnd? (skipExponent (rest.dropWhile isDigitOrGap))
  | c :: rest => if isExponentLetter c then numberEnd? (← exponent? rest) else none
  | [] => none

/-- Past the digits of a number, of which there must be one. A digit beyond the base is a fault,
where a letter beyond it ends the number. -/
def digits? (base : Nat) (seen : Bool) : List Char → Rest
  | c :: rest =>
    if c == '_' then if !seen && base == 10 then none else digits? base seen rest
    else
      match hexDigit? c with
      | some digit =>
        if digit < base then digits? base true rest
        else if c.isDigit || !seen then none
        else some (c :: rest)
      | none => if seen then some (c :: rest) else none
  | [] => if seen then some [] else none

def integer? : List Char → Rest
  | '0' :: 'x' :: rest => do numberEnd? (← digits? 16 false rest)
  | '0' :: 'o' :: rest => do numberEnd? (← digits? 8 false rest)
  | '0' :: 'b' :: rest => do numberEnd? (← digits? 2 false rest)
  | chars => do numberEnd? (← digits? 10 false chars)

/-- Whether an exponent follows its letter: a sign or a digit. -/
def exponentFollows (chars : List Char) : Bool :=
  (chars.dropWhile (· == '_')).head?.any fun c => c.isDigit || c == '+' || c == '-'

/-- Whether a character is a digit of a whole number in a base. -/
def isDigitOf (base : Nat) (c : Char) : Bool := c.isDigit || (base == 16 && (hexDigit? c).isSome)

/-- The value of the digits of a whole number in a base, and what follows them. Digits with a
fraction or an exponent are no whole number. -/
def wholeNumber? (base : Nat) : Nat → List Char → Option (Nat × List Char)
  | value, [] => some (value, [])
  | value, c :: rest =>
    if c == '_' then wholeNumber? base value rest
    else if isDigitOf base c then wholeNumber? base (base * value + (hexDigit? c).getD 0) rest
    else if base == 10 && (c == '.' || (isExponentLetter c && exponentFollows rest)) then none
    else some (value, c :: rest)

def numberKind (text : List Char) : LiteralKind :=
  let number := match text with
    | '0' :: 'x' :: rest => wholeNumber? 16 0 rest
    | '0' :: 'o' :: rest => wholeNumber? 8 0 rest
    | '0' :: 'b' :: rest => wholeNumber? 2 0 rest
    | chars => wholeNumber? 10 0 chars
  match number with
  | some (value, suffix) => .integer value (!suffix.isEmpty)
  | none => .float

def missingMark : List Char := "(/*ERROR*/)".toList

/-- Past a literal that is neither a string nor a number. -/
def other? (chars : List Char) : Rest :=
  (byteString? chars <|> zeroString? chars <|> byte? chars <|> char? chars).map skipSuffix

def takenFrom (chars rest : List Char) : List Char := chars.take (chars.length - rest.length)

def kind? (chars : List Char) : Option (LiteralKind × List Char) :=
  string? chars <|> (other? chars <|> skip? missingMark chars).map (.other, ·) <|>
    (float? chars <|> integer? chars).map fun rest => (numberKind (takenFrom chars rest), rest)

def read? (chars : List Char) : Option (Literal × List Char) := do
  let (kind, rest) ← kind? chars
  some (⟨String.ofList (takenFrom chars rest), kind⟩, rest)

end Literal

end SchemaMatch.Derive
