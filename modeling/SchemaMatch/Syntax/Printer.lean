import SchemaMatch.Syntax.Ast

/-!
# Printing a tree

A tree prints as the pattern that it was read from, without the blanks and comments that were
skipped. Numbers are the exception: a count prints in decimal without leading zeros, and a numeric
escape in the fewest digits that its notation allows, letters in upper case.
-/

namespace SchemaMatch.Syntax

/-- A character of syntax that the text of this module cannot hold as it is. -/
def openBrace : Char := '\x7b'

def closeBrace : Char := '\x7d'

def inBraces (text : List Char) : List Char := openBrace :: text ++ [closeBrace]

def decimalText (n : Nat) : List Char := Nat.toDigits 10 n

/-- A number in hexadecimal, letters in upper case, with at least the given number of digits. -/
def hexText (width n : Nat) : List Char :=
  let digits := (Nat.toDigits 16 n).map Char.toUpper
  List.replicate (width - digits.length) '0' ++ digits

def HexWidth.letter : HexWidth → Char
  | two => 'x'
  | four => 'u'
  | eight => 'U'

/-- The number of digits of a hexadecimal escape without braces. -/
def HexWidth.digits : HexWidth → Nat
  | two => 2
  | four => 4
  | eight => 8

def ControlEscape.letter : ControlEscape → Char
  | bell => 'a'
  | formFeed => 'f'
  | tab => 't'
  | lineFeed => 'n'
  | carriageReturn => 'r'
  | verticalTab => 'v'

/-- A character as it is written. -/
def Literal.print (literal : Literal) : List Char :=
  let code := literal.char.toNat
  match literal.form with
  | .plain => [literal.char]
  | .escaped => ['\\', literal.char]
  | .needlesslyEscaped => ['\\', literal.char]
  | .octal => '\\' :: Nat.toDigits 8 code
  | .hexDigits width => '\\' :: width.letter :: hexText width.digits code
  | .hexBraces width => '\\' :: width.letter :: inBraces (hexText 0 code)
  | .control escape => ['\\', escape.letter]

/-- An assertion as it is written. -/
def Assertion.print : Assertion → List Char
  | lineStart => ['^']
  | lineEnd => ['$']
  | textStart => ['\\', 'A']
  | textEnd => ['\\', 'z']
  | wordEdge => ['\\', 'b']
  | notWordEdge => ['\\', 'B']
  | wordStart => '\\' :: 'b' :: inBraces "start".toList
  | wordEnd => '\\' :: 'b' :: inBraces "end".toList
  | wordStartAngle => ['\\', '<']
  | wordEndAngle => ['\\', '>']
  | wordStartHalf => '\\' :: 'b' :: inBraces "start-half".toList
  | wordEndHalf => '\\' :: 'b' :: inBraces "end-half".toList

def Flag.letter : Flag → Char
  | caseInsensitive => 'i'
  | multiLine => 'm'
  | dotMatchesNewLine => 's'
  | swapGreed => 'U'
  | unicode => 'u'
  | crlf => 'R'
  | ignoreWhitespace => 'x'

def FlagItem.letter (item : FlagItem) : Char :=
  match item.kind with
  | .negation => '-'
  | .flag flag => flag.letter

/-- A list of flags. -/
def FlagList.print (flags : FlagList) : List Char := flags.items.map FlagItem.letter

/-- The opening of a group. -/
def GroupKind.print : GroupKind → List Char
  | captureIndex _ => ['(']
  | captureName startsWithP name =>
    (if startsWithP then ['(', '?', 'P', '<'] else ['(', '?', '<']) ++ name.name.toList ++ ['>']
  | nonCapturing flags => '(' :: '?' :: flags.print ++ [':']

/-- The numbers of a count. -/
def CountRange.print : CountRange → List Char
  | exactly count => decimalText count
  | atLeast min => decimalText min ++ [',']
  | bounded min max => decimalText min ++ ',' :: decimalText max

/-- A repetition operator, greedy. -/
def RepetitionKind.print : RepetitionKind → List Char
  | zeroOrOne => ['?']
  | zeroOrMore => ['*']
  | oneOrMore => ['+']
  | counted range => inBraces range.print

/-- The class of a letter. -/
def PerlClass.print (perl : PerlClass) : List Char :=
  match perl.kind, perl.negated with
  | .digit, false => ['\\', 'd']
  | .digit, true => ['\\', 'D']
  | .space, false => ['\\', 's']
  | .space, true => ['\\', 'S']
  | .word, false => ['\\', 'w']
  | .word, true => ['\\', 'W']

/-- The sign between a property and a value. -/
def PropertyRelation.print : PropertyRelation → List Char
  | equal => ['=']
  | colon => [':']
  | notEqual => ['!', '=']

/-- The query for a property. -/
def PropertyQuery.print : PropertyQuery → List Char
  | oneLetter letter => [letter]
  | named name => inBraces name.toList
  | valued relation name value => inBraces (name.toList ++ relation.print ++ value.toList)

/-- The class of a property. -/
def PropertyClass.print (property : PropertyClass) : List Char :=
  '\\' :: (if property.negated then 'P' else 'p') :: property.query.print

/-- The name of a class of ASCII characters. -/
def AsciiKind.name : AsciiKind → List Char
  | alnum => "alnum".toList
  | alpha => "alpha".toList
  | ascii => "ascii".toList
  | blank => "blank".toList
  | cntrl => "cntrl".toList
  | digit => "digit".toList
  | graph => "graph".toList
  | lower => "lower".toList
  | print => "print".toList
  | punct => "punct".toList
  | space => "space".toList
  | upper => "upper".toList
  | word => "word".toList
  | xdigit => "xdigit".toList

/-- A named class of ASCII characters. -/
def AsciiClass.print (ascii : AsciiClass) : List Char :=
  (if ascii.negated then ['[', ':', '^'] else ['[', ':']) ++ ascii.kind.name ++ [':', ']']

/-- An operator of a bracketed class. -/
def SetOperator.print : SetOperator → List Char
  | intersection => ['&', '&']
  | difference => ['-', '-']
  | symmetricDifference => ['~', '~']

def openBracket (negated : Bool) : List Char := if negated then ['[', '^'] else ['[']

mutual

/-- What stands in a bracketed class. -/
def ClassSet.print : ClassSet → List Char
  | .empty _ => []
  | .literal value => value.print
  | .range _ lo hi => lo.print ++ '-' :: hi.print
  | .ascii value => value.print
  | .property value => value.print
  | .perl value => value.print
  | .bracketed _ negated body => openBracket negated ++ body.print ++ [']']
  | .union _ items => ClassSet.printAll items
  | .binary _ operator lhs rhs => lhs.print ++ operator.print ++ rhs.print

def ClassSet.printAll : List ClassSet → List Char
  | [] => []
  | item :: rest => item.print ++ ClassSet.printAll rest

end

mutual

/-- The pattern of a tree, as characters. -/
def Ast.print : Ast → List Char
  | .empty _ => []
  | .flags _ list => '(' :: '?' :: list.print ++ [')']
  | .literal value => value.print
  | .dot _ => ['.']
  | .assertion _ kind => kind.print
  | .property value => value.print
  | .perl value => value.print
  | .bracketed _ negated body => openBracket negated ++ body.print ++ [']']
  | .repetition _ kind greedy sub => sub.print ++ kind.print ++ (if greedy then [] else ['?'])
  | .group _ kind sub => kind.print ++ sub.print ++ [')']
  | .alternation _ branches => Ast.printBranches branches
  | .concat _ items => Ast.printAll items

def Ast.printAll : List Ast → List Char
  | [] => []
  | item :: rest => item.print ++ Ast.printAll rest

def Ast.printBranches : List Ast → List Char
  | [] => []
  | [branch] => branch.print
  | branch :: next :: rest => branch.print ++ '|' :: Ast.printBranches (next :: rest)

end

/-- The pattern of a tree. -/
def Ast.render (ast : Ast) : String := String.ofList ast.print

end SchemaMatch.Syntax
