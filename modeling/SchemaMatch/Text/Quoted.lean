import SchemaMatch.Unicode.CharClass

/-!
# Quoted text

Text in double quotes, as it is shown to developers. Quotes and backslashes are escaped, four
control characters have letters, and what cannot be seen is written by its code point.
-/

namespace SchemaMatch.Text

def braceOpen : String := "\x7b"

def braceClose : String := "\x7d"

namespace Quoted

/-- A number in hexadecimal, letters in lower case. -/
def hex (n : Nat) : String := String.ofList (Nat.toDigits 16 n)

def char (c : Char) : String :=
  match c with
  | '\x00' => "\\0"
  | '\t' => "\\t"
  | '\r' => "\\r"
  | '\n' => "\\n"
  | '\\' => "\\\\"
  | '"' => "\\\""
  | _ =>
    if Unicode.unprintable.has c then "\\u" ++ braceOpen ++ hex c.toNat ++ braceClose
    else String.singleton c

end Quoted

def quoted (text : String) : String :=
  "\"" ++ String.join (text.toList.map Quoted.char) ++ "\""

end SchemaMatch.Text
