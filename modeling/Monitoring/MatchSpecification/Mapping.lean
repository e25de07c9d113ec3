import Monitoring.Expression.Rendering
import Monitoring.MatchSpecification.Basic

namespace Monitoring

inductive MappingError
  | unsupportedNegation (operand : String)
  | unknownOperator (tag operator : String)
  | unknownEntity (tag entity : String)
  | missingValue (tag operator : String)
  | unexpectedValue (tag operator : String)
  | blankTag
  deriving DecidableEq, Repr

namespace MappingError

def message : MappingError → String
  | unsupportedNegation operand =>
    s!"negation of logical expression '{operand}' is not supported by the API"
  | unknownOperator tag operator =>
    s!"operator '{operator}' of tag filter '{tag}' has no textual equivalent"
  | unknownEntity tag entity => s!"entity '{entity}' of tag filter '{tag}' has no textual equivalent"
  | missingValue tag operator => s!"tag filter '{tag}' with operator {operator} requires a value"
  | unexpectedValue tag operator =>
    s!"tag filter '{tag}' with operator {operator} must not have a value"
  | blankTag => "name of tag filter must not be blank"

end MappingError

namespace TagFilter

def ofComparison (c : Comparison) : TagFilter :=
  ⟨c.tag, c.operator.wireName, c.entity.map Entity.wireName, c.value⟩

def operator? (f : TagFilter) : Except MappingError ComparisonOperator :=
  match ComparisonOperator.ofWireName? f.operator with
  | some operator => .ok operator
  | none => .error (.unknownOperator f.name f.operator)

def entity? (f : TagFilter) : Except MappingError (Option Entity) :=
  match f.entity with
  | none => .ok none
  | some name =>
    match Entity.ofWireName? name with
    | some entity => .ok (some entity)
    | none => .error (.unknownEntity f.name name)

def toComparison (f : TagFilter) : Except MappingError Comparison := do
  if Text.isBlank f.name then .error .blankTag
  let operator ← f.operator?
  let entity ← f.entity?
  match f.value, operator.isUnary with
  | none, false => .error (.missingValue f.name f.operator)
  | some _, true => .error (.unexpectedValue f.name f.operator)
  | _, _ => return ⟨entity, f.name, operator, f.value⟩

def negate (f : TagFilter) : Except MappingError TagFilter := do
  let operator ← f.operator?
  return { f with operator := operator.negated.wireName }

end TagFilter

namespace Expression

def toSpecification : Expression → Except MappingError MatchSpecification
  | logical op l r => do
    let left ← l.toSpecification
    let right ← r.toSpecification
    return .logical left op right
  | negation e => do
    match ← e.toSpecification with
    | .tagFilter f => return .tagFilter (← f.negate)
    | .logical .. => .error (.unsupportedNegation e.render)
  | comparison c => return .tagFilter (.ofComparison c)

end Expression

namespace MatchSpecification

def toExpression : MatchSpecification → Except MappingError Expression
  | tagFilter f => return .comparison (← f.toComparison)
  | logical l c r => do
    let left ← l.toExpression
    let right ← r.toExpression
    return .logical c left right

end MatchSpecification

end Monitoring
