/-!
# Reading JSON

A JSON text is read strictly into a value. Members of an object keep their order and may repeat.
Numbers matter only as natural numbers of 64 bits; any other number is a number of no further
interest. A string with half of a surrogate pair has no text.
-/

namespace SchemaMatch.Json

inductive Value
  | null
  | bool (value : Bool)
  /-- A number written as digits only, below 2^64. -/
  | nat (value : Nat)
  /-- Any other number. -/
  | number
  | string (text : Option String)
  | array (items : List Value)
  | object (members : List (Option String × Value))

namespace Reader

def skipBlanks (chars : List Char) : List Char :=
  chars.dropWhile fun c => c == ' ' || c == '\n' || c == '\t' || c == '\r'

def hexDigit? (c : Char) : Option Nat :=
  if c.isDigit then some (c.toNat - 48)
  else if 'a' ≤ c ∧ c ≤ 'f' then some (c.toNat - 87)
  else if 'A' ≤ c ∧ c ≤ 'F' then some (c.toNat - 55)
  else none

def hexCode? (a b c d : Char) : Option Nat := do
  return 4096 * (← hexDigit? a) + 256 * (← hexDigit? b) + 16 * (← hexDigit? c) + (← hexDigit? d)

/-- The character that a letter after a backslash stands for. -/
def escape? : Char → Option Char
  | '"' => some '"'
  | '\\' => some '\\'
  | '/' => some '/'
  | 'b' => some '\x08'
  | 'f' => some '\x0c'
  | 'n' => some '\n'
  | 'r' => some '\r'
  | 't' => some '\t'
  | _ => none

/-- Reads the inside of a string up to its closing quote, as codes that may be surrogates. -/
def stringCodes : List Char → Option (List Nat × List Char)
  | '"' :: rest => some ([], rest)
  | '\\' :: 'u' :: a :: b :: c :: d :: rest => do
    let code ← hexCode? a b c d
    let (codes, rest) ← stringCodes rest
    some (code :: codes, rest)
  | '\\' :: letter :: rest => do
    let c ← escape? letter
    let (codes, rest) ← stringCodes rest
    some (c.toNat :: codes, rest)
  | c :: rest =>
    if c.toNat < 0x20 then none
    else do
      let (codes, rest) ← stringCodes rest
      some (c.toNat :: codes, rest)
  | [] => none

/-- Whether a code is the first half of a surrogate pair. -/
def isHigh (code : Nat) : Bool := 0xD800 ≤ code && code < 0xDC00

/-- Whether a code is the second half of a surrogate pair. -/
def isLow (code : Nat) : Bool := 0xDC00 ≤ code && code < 0xE000

/-- The characters of codes, where surrogates come in pairs. -/
def joinPairs? : List Nat → Option (List Char)
  | [] => some []
  | high :: low :: rest =>
    if isHigh high && isLow low then
      (Char.ofNat (0x10000 + 1024 * (high - 0xD800) + (low - 0xDC00)) :: ·) <$> joinPairs? rest
    else if isHigh high || isLow high then none
    else (Char.ofNat high :: ·) <$> joinPairs? (low :: rest)
  | [code] => if isHigh code || isLow code then none else some [Char.ofNat code]

def string (chars : List Char) : Option (Option String × List Char) := do
  let (codes, rest) ← stringCodes chars
  some ((joinPairs? codes).map String.ofList, rest)

def digits (chars : List Char) : Option (List Char × List Char) :=
  match chars.span Char.isDigit with
  | ([], _) => none
  | (digits, rest) => some (digits, rest)

def fraction : List Char → Option (Bool × List Char)
  | '.' :: rest => (digits rest).map fun (_, rest) => (true, rest)
  | chars => some (false, chars)

def exponentSign : List Char → List Char
  | '+' :: rest => rest
  | '-' :: rest => rest
  | chars => chars

def exponent : List Char → Option (Bool × List Char)
  | c :: rest =>
    if c == 'e' || c == 'E' then
      (digits (exponentSign rest)).map fun (_, rest) => (true, rest)
    else some (false, c :: rest)
  | [] => some (false, [])

def decimal (digits : List Char) : Nat :=
  digits.foldl (fun value c => 10 * value + (c.toNat - 48)) 0

/-- Reads a number. Only a zero may start with a zero. -/
def number (chars : List Char) : Option (Value × List Char) := do
  let negative := chars.head? == some '-'
  let (whole, rest) ← digits (if negative then chars.tail else chars)
  if whole.head? == some '0' && whole.length != 1 then none
  let (hasFraction, rest) ← fraction rest
  let (hasExponent, rest) ← exponent rest
  let value := decimal whole
  if negative || hasFraction || hasExponent || Nat.pow 2 64 ≤ value then some (.number, rest)
  else some (.nat value, rest)

mutual

/-- Reads a value; the first argument bounds the characters that are left. -/
def value : Nat → List Char → Option (Value × List Char)
  | 0, _ => none
  | bound + 1, chars =>
    match skipBlanks chars with
    | 'n' :: 'u' :: 'l' :: 'l' :: rest => some (.null, rest)
    | 't' :: 'r' :: 'u' :: 'e' :: rest => some (.bool true, rest)
    | 'f' :: 'a' :: 'l' :: 's' :: 'e' :: rest => some (.bool false, rest)
    | '"' :: rest => (string rest).map fun (text, rest) => (.string text, rest)
    | '[' :: rest =>
      match skipBlanks rest with
      | ']' :: rest => some (.array [], rest)
      | rest => (items bound rest).map fun (items, rest) => (.array items, rest)
    | '\x7b' :: rest =>
      match skipBlanks rest with
      | '\x7d' :: rest => some (.object [], rest)
      | rest => (members bound rest).map fun (members, rest) => (.object members, rest)
    | rest => number rest

/-- Reads the items of an array, of which there is one at least, and its closing bracket. -/
def items : Nat → List Char → Option (List Value × List Char)
  | 0, _ => none
  | bound + 1, chars => do
    let (item, rest) ← value bound chars
    match skipBlanks rest with
    | ',' :: rest =>
      let (more, rest) ← items bound rest
      some (item :: more, rest)
    | ']' :: rest => some ([item], rest)
    | _ => none

/-- Reads the members of an object, of which there is one at least, and its closing brace. -/
def members : Nat → List Char → Option (List (Option String × Value) × List Char)
  | 0, _ => none
  | bound + 1, chars =>
    match skipBlanks chars with
    | '"' :: rest => do
      let (key, rest) ← string rest
      match skipBlanks rest with
      | ':' :: rest =>
        let (member, rest) ← value bound rest
        match skipBlanks rest with
        | ',' :: rest =>
          let (more, rest) ← members bound rest
          some ((key, member) :: more, rest)
        | '\x7d' :: rest => some ([(key, member)], rest)
        | _ => none
      | _ => none
    | _ => none

end

end Reader

/-- Reads a text that holds one value and nothing else. -/
def Value.parse? (text : String) : Option Value := do
  let chars := text.toList
  let (value, rest) ← Reader.value (2 * chars.length + 2) chars
  if (Reader.skipBlanks rest).isEmpty then some value else none

end SchemaMatch.Json
