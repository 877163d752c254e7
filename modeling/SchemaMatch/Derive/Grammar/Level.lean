import SchemaMatch.Derive.Grammar.Item
import SchemaMatch.Derive.Grammar.Statement

/-!
# Grammars of any depth

Each level reads what it contains by means of the level below. What a reader asks a lower level to
read is smaller after a few levels, so that a level above some multiple of the number of tokens
reads whatever any higher level reads.
-/

namespace SchemaMatch.Derive.Grammar

def level : Nat → Grammar
  | 0 => empty
  | depth + 1 =>
    let below := level depth
    { type := below.readType
      bound := below.readBound
      expression := below.readExpression
      statementExpression := below.readStatementExpression
      pattern := below.readPattern
      statements := below.readStatements
      item := below.readItem }

def forTokens (tokens : List Token) : Grammar := level (8 * (Token.weightAll tokens + 2))

end SchemaMatch.Derive.Grammar
