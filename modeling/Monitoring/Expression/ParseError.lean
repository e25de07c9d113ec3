import Monitoring.Expression.Basic

namespace Monitoring

inductive Found
  | token (text : String)
  | endOfInput
  deriving DecidableEq, Repr

namespace Found

def describe : Found → String
  | token text => s!"'{text}'"
  | endOfInput => "end of input"

end Found

inductive ParseErrorKind
  | empty
  | unterminatedString
  | unclosedParenthesis (found : Found)
  | unexpectedClosingParenthesis
  | missingOperator (tag : String) (found : Found)
  | unknownOperator (word : String)
  | missingValue (operator : ComparisonOperator) (found : Found)
  | unknownEntityOrigin (word : String)
  | blankTag
  | unexpectedToken (found : Found)
  | unexpectedEnd
  | nestingTooDeep
  deriving DecidableEq, Repr

namespace ParseErrorKind

/-- The greatest number of open parentheses and NOTs around a token, and the greatest height of
the resulting tree. -/
def maxNesting : Nat := 256

def message : ParseErrorKind → String
  | empty => "expression is empty"
  | unterminatedString => "unterminated string literal"
  | unclosedParenthesis found =>
    s!"unbalanced parenthesis, expected ')' but found {found.describe}"
  | unexpectedClosingParenthesis => "unbalanced parenthesis, unexpected ')'"
  | missingOperator tag found => s!"missing operator after tag '{tag}', found {found.describe}"
  | unknownOperator word => s!"unknown operator '{word}'"
  | missingValue operator found =>
    s!"missing value for operator {operator.keyword}, found {found.describe}"
  | unknownEntityOrigin word => s!"unknown entity origin '{word}'"
  | blankTag => "tag must not be blank"
  | unexpectedToken found => s!"unexpected {found.describe}"
  | unexpectedEnd => "unexpected end of input"
  | nestingTooDeep => s!"expression is nested deeper than {maxNesting} levels"

end ParseErrorKind

structure ParseError where
  kind : ParseErrorKind
  position : Nat
  deriving DecidableEq, Repr

namespace ParseError

def message (e : ParseError) : String :=
  s!"invalid match expression: {e.kind.message} at position {e.position}"

end ParseError

end Monitoring
