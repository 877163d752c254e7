/-!
# UTF-8

Text as bytes and back. Bytes that are no text decode strictly to nothing and leniently to
replacement characters, one for each longest start of a character that breaks off and for each byte
that starts none.
-/

namespace SchemaMatch.Text

def utf8 (text : String) : List UInt8 := text.toUTF8.toList

namespace Utf8

/-- The character that stands for what cannot be decoded. -/
def replacement : Char := '\ufffd'

def isTail (byte : UInt8) : Bool := 0x80 ≤ byte && byte ≤ 0xBF

/-- The number of bytes that follow the first one of a character, the range of the first of them,
and the bits that the first byte contributes; none for a byte that starts no character. -/
def lead? (byte : UInt8) : Option (Nat × UInt8 × UInt8 × Nat) :=
  let value := byte.toNat
  if byte < 0x80 then some (0, 0x80, 0xBF, value)
  else if byte < 0xC2 then none
  else if byte < 0xE0 then some (1, 0x80, 0xBF, value - 0xC0)
  else if byte == 0xE0 then some (2, 0xA0, 0xBF, 0)
  else if byte == 0xED then some (2, 0x80, 0x9F, value - 0xE0)
  else if byte < 0xF0 then some (2, 0x80, 0xBF, value - 0xE0)
  else if byte == 0xF0 then some (3, 0x90, 0xBF, 0)
  else if byte < 0xF4 then some (3, 0x80, 0xBF, value - 0xF0)
  else if byte == 0xF4 then some (3, 0x80, 0x8F, value - 0xF0)
  else none

/-- Takes the bytes that go on with a character, of which the next must lie in a range. The result
is the character, if it is complete, and the bytes that are left. -/
def takeTail (value : Nat) : Nat → UInt8 → UInt8 → List UInt8 → Option Char × List UInt8
  | 0, _, _, bytes => (some (Char.ofNat value), bytes)
  | _ + 1, _, _, [] => (none, [])
  | count + 1, lo, hi, byte :: rest =>
    if lo ≤ byte && byte ≤ hi then
      takeTail (64 * value + (byte.toNat - 0x80)) count 0x80 0xBF rest
    else (none, byte :: rest)

/-- The first character of some bytes, if they start with one, and the bytes that are left. -/
def first (byte : UInt8) (rest : List UInt8) : Option Char × List UInt8 :=
  match lead? byte with
  | some (count, lo, hi, value) => takeTail value count lo hi rest
  | none => (none, rest)

/-- The characters of some bytes, with nothing in the place of what is no character. The first
argument bounds the number of bytes. -/
def decodeFrom : Nat → List UInt8 → List (Option Char)
  | 0, _ => []
  | _, [] => []
  | bound + 1, byte :: rest =>
    let (c, rest) := first byte rest
    c :: decodeFrom bound rest

/-- The characters of some bytes, with nothing in the place of what is no character. -/
def decode (bytes : List UInt8) : List (Option Char) := decodeFrom bytes.length bytes

end Utf8

def ofUtf8? (bytes : List UInt8) : Option String :=
  ((Utf8.decode bytes).mapM id).map String.ofList

def ofUtf8Lossy (bytes : List UInt8) : String :=
  String.ofList ((Utf8.decode bytes).map (·.getD Utf8.replacement))

end SchemaMatch.Text
