import SchemaMatch.Derive.Cursor

/-!
# Readers of tokens

A reader takes tokens from the front of a list and leaves the others, or refuses. Readers of syntax
give the tokens that they have taken in the form in which they are written out again, which is how
they were written but for a few rules: lifetimes come before other arguments, and marks that
introduce nothing are dropped.
-/

namespace SchemaMatch.Derive

/-- A reader of tokens. -/
abbrev Reader (α : Type) := StateT (List Token) Option α

/-- One of several elements, and whether a separator stands after it. -/
structure Element (α : Type) where
  value : α
  separated : Bool
  deriving Repr

namespace Reader

open Cursor

variable {α : Type}

def comes (condition : List Token → Bool) : Reader Bool := return condition (← get)

/-- Refuses unless what comes next meets a condition. -/
def require (condition : List Token → Bool) : Reader Unit := do
  if condition (← get) then return () else failure

def takenSince (before : List Token) : Reader (List Token) := do
  return before.take (before.length - (← get).length)

def asWritten (reader : Reader α) : Reader (List Token) := do
  let before ← get
  let _ ← reader
  takenSince before

def taking (skip? : List Token → Rest) : Reader (List Token) :=
  asWritten do
    match skip? (← get) with
    | some rest => set rest
    | none => failure

def punct (text : String) : Reader (List Token) := taking (skipPunct? text.toList)

/-- Takes a word. -/
def word (text : String) : Reader (List Token) := taking (skipWord? text)

def someWord : Reader String := do
  match ← get with
  | .word text :: rest =>
    set rest
    return text
  | _ => failure

/-- Takes a name. -/
def name : Reader String := do
  require startsName
  someWord

def nameOr (texts : List String) : Reader String := do
  require fun tokens => startsName tokens || startsAnyWord texts tokens
  someWord

def nameToken : Reader (List Token) := return [.word (← name)]

/-- Takes a name with a quotation mark in front. -/
def lifetime : Reader (List Token) := taking skipLifetime?

/-- Takes a literal, a truth value or a negative number. -/
def literal : Reader (List Token) := taking skipLiteral?

def string : Reader (List Token) := do
  require startsString
  literal

def someGroup : Reader (List Token) :=
  taking fun
    | .group _ _ :: rest => some rest
    | _ => none

def anyGroup (delimiter : Delimiter) : Reader (List Token) := do
  require (startsGroup delimiter)
  someGroup

/-- Reads something if a condition on what comes next holds, and takes nothing otherwise. -/
def whenever (condition : List Token → Bool) (reader : Reader (List Token)) :
    Reader (List Token) := do
  if condition (← get) then reader else return []

/-- Takes a punctuation if it comes next. -/
def optionalPunct (text : String) : Reader (List Token) :=
  whenever (startsPunct text) (punct text)

def optionalWord (text : String) : Reader (List Token) := whenever (startsWord text) (word text)

def optionalLifetime : Reader (List Token) := whenever startsLifetime lifetime

def all? (reader : Reader α) (tokens : List Token) : Option α :=
  match reader.run tokens with
  | some (value, []) => some value
  | _ => none

def inside (delimiter : Delimiter) (reader : Reader α) : Reader α := do
  match ← get with
  | .group found inner :: rest =>
    if found = delimiter then
      match all? reader inner with
      | some value =>
        set rest
        return value
      | none => failure
    else failure
  | _ => failure

def group (delimiter : Delimiter) (reader : Reader (List Token)) : Reader (List Token) :=
  return [.group delimiter (← inside delimiter reader)]

def inOrder : List (Reader (List Token)) → Reader (List Token)
  | [] => return []
  | reader :: rest => do
    let first ← reader
    return first ++ (← inOrder rest)

/-- Reads elements until an end comes next. The first argument bounds their number. -/
def untilEndBounded (ends : List Token → Bool) (element : Reader α) : Nat → Reader (List α)
  | 0 => failure
  | bound + 1 => do
    if ends (← get) then return []
    let first ← element
    return first :: (← untilEndBounded ends element bound)

/-- Reads elements, each of which takes something, until an end comes next. -/
def untilEnd (ends : List Token → Bool) (element : Reader α) : Reader (List α) := do
  untilEndBounded ends element ((← get).length + 1)

def during (condition : List Token → Bool) (element : Reader α) : Reader (List α) :=
  untilEnd (fun tokens => !condition tokens) element

/-- Reads elements with a separator between any two, and perhaps after the last, until an end comes
where an element might. They stop after an element where `stops` holds. The last argument bounds
their number. -/
def separatedBounded (ends stops : List Token → Bool) (separator : String) (element : Reader α) :
    Nat → Reader (List (Element α))
  | 0 => failure
  | bound + 1 => do
    if ends (← get) then return []
    let first ← element
    if stops (← get) then return [⟨first, false⟩]
    let _ ← punct separator
    return ⟨first, true⟩ :: (← separatedBounded ends stops separator element bound)

/-- Reads elements with a separator between any two, and perhaps after the last, until an end comes
next. -/
def separated (ends : List Token → Bool) (separator : String) (element : Reader α) :
    Reader (List (Element α)) := do
  separatedBounded ends ends separator element ((← get).length + 1)

/-- Reads elements with a separator between any two, and perhaps after the last, until no separator
follows an element or an end comes where an element might. -/
def joined (ends : List Token → Bool) (separator : String) (element : Reader α) :
    Reader (List (Element α)) := do
  separatedBounded ends (fun tokens => !startsPunct separator tokens) separator element
    ((← get).length + 1)

def commaSeparated (element : Reader α) : Reader (List (Element α)) :=
  separated List.isEmpty "," element

def written (separator : String) (form : α → List Token) (elements : List (Element α)) :
    List Token :=
  elements.flatMap fun element =>
    form element.value ++ if element.separated then Token.ofPunct separator else []

def commaList (element : Reader (List Token)) : Reader (List Token) :=
  return written "," id (← commaSeparated element)

end Reader

end SchemaMatch.Derive
