import Monitoring.State.AttributeValue

namespace Monitoring

inductive EvaluationError
  | undefinedVariable (name : String)
  | undefinedFunction (name : String)
  | unexpected (expected found : String)
  | undefinedIndex
  | divisionByZero
  | duplicateKey (key : String)
  deriving DecidableEq, Repr

namespace EvaluationError

def message : EvaluationError → String
  | undefinedVariable name => s!"undefined variable {name}"
  | undefinedFunction name => s!"undefined function {name}"
  | unexpected expected found => s!"expected {expected} but found {found}"
  | undefinedIndex => "no such element"
  | divisionByZero => "division by zero"
  | duplicateKey key => s!"duplicate key {key}"

end EvaluationError

inductive FieldType
  | string
  | stringList
  | stringSet
  deriving DecidableEq, Repr

namespace FieldType

def name : FieldType → String
  | string => "string"
  | stringList => "string_list"
  | stringSet => "string_set"

def describe : FieldType → String
  | string => "string"
  | stringList => "list of strings"
  | stringSet => "set of strings"

end FieldType

inductive UnsupportedValue
  | null
  | object
  deriving DecidableEq, Repr

namespace UnsupportedValue

def message : UnsupportedValue → String
  | null => "null values are not supported"
  | object => "object values are not supported"

end UnsupportedValue

inductive StateError
  | missingAttribute (name : String)
  | typeMismatch (name : String) (expected : FieldType) (found : AttributeType)
  | unknownAttribute (name : String)
  | computedAttribute (name : String)
  | unsupportedValue (name : String) (reason : UnsupportedValue)
  | evaluation (name : String) (cause : EvaluationError)
  deriving DecidableEq, Repr

namespace StateError

def message : StateError → String
  | missingAttribute name => s!"attribute {name} is required"
  | typeMismatch name expected found =>
    s!"attribute {name} must be a {expected.describe} but is a {found.name}"
  | unknownAttribute name => s!"unsupported attribute {name}"
  | computedAttribute name => s!"attribute {name} is computed and cannot be configured"
  | unsupportedValue name _ => s!"value of attribute {name} is not supported"
  | evaluation name cause => s!"attribute {name} cannot be evaluated: {cause.message}"

end StateError

end Monitoring
