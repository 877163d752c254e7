import SchemaMatch.Options
import SchemaMatch.Regex.Term
import SchemaMatch.Syntax.Ast
import SchemaMatch.Syntax.Cursor
import SchemaMatch.Syntax.Group
import SchemaMatch.Unicode.CaseFold
import SchemaMatch.Unicode.Property

/-!
# The meaning of a syntax tree

A tree means a term under the flags in force where it stands. A switch of flags holds to the end of
its group. Outside of Unicode mode classes are about ASCII, and what could match a part of a
character's bytes is refused.
-/

namespace SchemaMatch.Regex

open Syntax
open Unicode (CodeSet CodeRange)

/-- The flags in force at a place of a pattern. -/
structure Flags where
  caseInsensitive : Bool
  multiLine : Bool
  dotMatchesNewLine : Bool
  swapGreed : Bool
  unicode : Bool
  crlf : Bool
  deriving DecidableEq, Repr

namespace Flags

def ofOptions (options : Options) : Flags where
  caseInsensitive := options.caseInsensitive
  multiLine := options.multiLine
  dotMatchesNewLine := options.dotMatchesNewLine
  swapGreed := options.swapGreed
  unicode := options.unicode
  crlf := false

def switch (flags : Flags) (on : Bool) : Flag → Flags
  | .caseInsensitive => { flags with caseInsensitive := on }
  | .multiLine => { flags with multiLine := on }
  | .dotMatchesNewLine => { flags with dotMatchesNewLine := on }
  | .swapGreed => { flags with swapGreed := on }
  | .unicode => { flags with unicode := on }
  | .crlf => { flags with crlf := on }
  | .ignoreWhitespace => flags

def apply (flags : Flags) (on : Bool) : List FlagItem → Flags
  | [] => flags
  | item :: rest =>
    match item.kind with
    | .negation => flags.apply false rest
    | .flag flag => (flags.switch on flag).apply on rest

end Flags

def charRanges (pairs : List (Char × Char)) : CodeSet :=
  CodeSet.ofRanges (pairs.map fun (lo, hi) => ⟨lo.toNat, hi.toNat⟩)

def asciiSet : AsciiKind → CodeSet
  | .alnum => charRanges [('0', '9'), ('A', 'Z'), ('a', 'z')]
  | .alpha => charRanges [('A', 'Z'), ('a', 'z')]
  | .ascii => charRanges [('\x00', '\x7f')]
  | .blank => charRanges [('\t', '\t'), (' ', ' ')]
  | .cntrl => charRanges [('\x00', '\x1f'), ('\x7f', '\x7f')]
  | .digit => charRanges [('0', '9')]
  | .graph => charRanges [('!', '~')]
  | .lower => charRanges [('a', 'z')]
  | .print => charRanges [(' ', '~')]
  | .punct => charRanges [('!', '/'), (':', '@'), ('[', '\x60'), ('\x7b', '~')]
  | .space => charRanges [('\t', '\r'), (' ', ' ')]
  | .upper => charRanges [('A', 'Z')]
  | .word => charRanges [('0', '9'), ('A', 'Z'), ('_', '_'), ('a', 'z')]
  | .xdigit => charRanges [('0', '9'), ('A', 'F'), ('a', 'f')]

/-- The characters of a class with a letter, before any negation. -/
def perlSet (unicode : Bool) : PerlKind → CodeSet
  | .digit => if unicode then Unicode.digits else asciiSet .digit
  | .space => if unicode then Unicode.blanks else asciiSet .space
  | .word => if unicode then Unicode.wordChars else asciiSet .word

namespace Flags

/-- Closes a set under case, where case is ignored. -/
def fold (flags : Flags) (set : CodeSet) : CodeSet :=
  if flags.caseInsensitive then
    if flags.unicode then Unicode.CaseFold.close set else Unicode.CaseFold.closeAscii set
  else set

/-- Accepts a class unless it could match a part of a character. -/
def accept (flags : Flags) (span : Span) (set : CodeSet) : Except SyntaxError CodeSet :=
  if flags.unicode || set.isAscii then .ok set else refuse .invalidUtf8 span

def foldAndNegate (flags : Flags) (span : Span) (negated : Bool) (set : CodeSet) :
    Except SyntaxError CodeSet :=
  let folded := flags.fold set
  flags.accept span (if negated then folded.compl else folded)

def perl (flags : Flags) (perl : PerlClass) : Except SyntaxError CodeSet :=
  let set := perlSet flags.unicode perl.kind
  flags.accept perl.span (if perl.negated then set.compl else set)

def lookupProblem : Unicode.Property.LookupError → Problem
  | .unknownProperty => .propertyNotFound
  | .unknownValue => .propertyValueNotFound

def property (flags : Flags) (property : PropertyClass) : Except SyntaxError CodeSet :=
  if flags.unicode then
    let (found, excluded) := match property.query with
      | .oneLetter letter => (Unicode.Property.byName (String.singleton letter), false)
      | .named name => (Unicode.Property.byName name, false)
      | .valued relation name value =>
        (Unicode.Property.byValue name value, relation == PropertyRelation.notEqual)
    match found with
    | .ok set => flags.foldAndNegate property.span (property.negated != excluded) set
    | .error error => refuse (lookupProblem error) property.span
  else refuse .unicodeNotAllowed property.span

def member (flags : Flags) (literal : Literal) : Except SyntaxError Nat :=
  let code := literal.char.toNat
  if flags.unicode || code < 0x80 then .ok code
  else if literal.form == .hexDigits .two && code < 0x100 then refuse .invalidUtf8 literal.span
  else refuse .unicodeNotAllowed literal.span

def operate : SetOperator → CodeSet → CodeSet → CodeSet
  | .intersection, lhs, rhs => lhs.inter rhs
  | .difference, lhs, rhs => lhs.diff rhs
  | .symmetricDifference, lhs, rhs => lhs.symmDiff rhs

mutual

def classSet (flags : Flags) : ClassSet → Except SyntaxError CodeSet
  | .empty _ => .ok CodeSet.empty
  | .literal literal => do
    let code ← flags.member literal
    .ok (CodeSet.single code)
  | .range _ lo hi => do
    let lo ← flags.member lo
    let hi ← flags.member hi
    .ok ⟨[⟨lo, hi⟩]⟩
  | .ascii ascii => flags.foldAndNegate ascii.span ascii.negated (asciiSet ascii.kind)
  | .property property => flags.property property
  | .perl perl => flags.perl perl
  | .bracketed span negated body => do
    let set ← classSet flags body
    flags.foldAndNegate span negated set.normalize
  | .union _ items => do
    let sets ← classSets flags items
    .ok (CodeSet.unionAll sets)
  | .binary _ operator lhs rhs => do
    let lhs ← classSet flags lhs
    let rhs ← classSet flags rhs
    .ok (operate operator (flags.fold lhs.normalize) (flags.fold rhs.normalize))

def classSets (flags : Flags) : List ClassSet → Except SyntaxError (List CodeSet)
  | [] => .ok []
  | item :: rest => do
    let set ← classSet flags item
    let sets ← classSets flags rest
    .ok (set :: sets)

end

def alphabet (flags : Flags) : Alphabet := if flags.unicode then .characters else .bytes

def literal (flags : Flags) (literal : Literal) : Except SyntaxError Term :=
  let code := literal.char.toNat
  let single := CodeSet.single code
  if !flags.unicode && 0x80 ≤ code && code < 0x100 && literal.form == .hexDigits .two then
    refuse .invalidUtf8 literal.span
  else if flags.caseInsensitive && (flags.unicode || code < 0x80) then
    .ok (.ofClass flags.alphabet (flags.fold single))
  else .ok (.literal [literal.char])

def dot (flags : Flags) (span : Span) : Except SyntaxError Term :=
  if !flags.unicode then refuse .invalidUtf8 span
  else if flags.dotMatchesNewLine then .ok (.chars .characters CodeSet.full)
  else if flags.crlf then
    .ok (.chars .characters (charRanges [('\n', '\n'), ('\r', '\r')]).compl)
  else .ok (.chars .characters (charRanges [('\n', '\n')]).compl)

def look (flags : Flags) : Assertion → Look
  | .lineStart =>
    if flags.multiLine then if flags.crlf then .crlfLineStart else .lineStart else .textStart
  | .lineEnd =>
    if flags.multiLine then if flags.crlf then .crlfLineEnd else .lineEnd else .textEnd
  | .textStart => .textStart
  | .textEnd => .textEnd
  | .wordEdge => .word .edge flags.unicode
  | .notWordEdge => .word .notEdge flags.unicode
  | .wordStart => .word .start flags.unicode
  | .wordStartAngle => .word .start flags.unicode
  | .wordEnd => .word .stop flags.unicode
  | .wordEndAngle => .word .stop flags.unicode
  | .wordStartHalf => .word .startHalf flags.unicode
  | .wordEndHalf => .word .stopHalf flags.unicode

end Flags

def repetitionBounds : RepetitionKind → Nat × Option Nat
  | .zeroOrOne => (0, some 1)
  | .zeroOrMore => (0, none)
  | .oneOrMore => (1, none)
  | .counted (.exactly count) => (count, some count)
  | .counted (.atLeast min) => (min, none)
  | .counted (.bounded min max) => (min, some max)

def groupFlags (flags : Flags) : GroupKind → Flags
  | .nonCapturing list => flags.apply true list.items
  | _ => flags

def grouped (term : Term) : GroupKind → Term
  | .captureIndex index => .capture index term
  | .captureName _ name => .capture name.index term
  | .nonCapturing _ => term

mutual

def meaning (flags : Flags) : Ast → Except SyntaxError (Term × Flags)
  | .empty _ => .ok (.empty, flags)
  | .flags _ list => .ok (.empty, flags.apply true list.items)
  | .literal literal => return (← flags.literal literal, flags)
  | .dot span => return (← flags.dot span, flags)
  | .assertion _ assertion => .ok (.look (flags.look assertion), flags)
  | .property property =>
    return (.ofClass .characters (← flags.property property), flags)
  | .perl perl => return (.ofClass flags.alphabet (← flags.perl perl), flags)
  | .bracketed span negated body => do
    let set ← flags.classSet body
    let set ← flags.foldAndNegate span negated set.normalize
    .ok (.ofClass flags.alphabet set, flags)
  | .repetition _ kind greedy sub => do
    let (term, flags) ← meaning flags sub
    let (min, max) := repetitionBounds kind
    .ok (.repeated min max (greedy != flags.swapGreed) term, flags)
  | .group _ kind sub => do
    let (term, _) ← meaning (groupFlags flags kind) sub
    .ok (grouped term kind, flags)
  | .alternation _ branches => do
    let (terms, flags) ← meanings flags branches
    .ok (.oneOf terms, flags)
  | .concat _ items => do
    let (terms, flags) ← meanings flags items
    .ok (.sequence terms, flags)

def meanings (flags : Flags) : List Ast → Except SyntaxError (List Term × Flags)
  | [] => .ok ([], flags)
  | item :: rest => do
    let (term, flags) ← meaning flags item
    let (terms, flags) ← meanings flags rest
    .ok (term :: terms, flags)

end

end SchemaMatch.Regex
