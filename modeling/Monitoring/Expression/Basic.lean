import Monitoring.Text.Character

namespace Monitoring

inductive Entity
  | source
  | destination
  | notApplicable
  deriving DecidableEq, Repr

namespace Entity

def all : List Entity := [source, destination, notApplicable]

def keyword : Entity → String
  | source => "src"
  | destination => "dest"
  | notApplicable => "na"

def ofKeyword? (word : String) : Option Entity :=
  all.find? fun e => Text.equalsIgnoringCase e.keyword word

end Entity

inductive ComparisonOperator
  | equals
  | notEqual
  | contains
  | notContains
  | startsWith
  | notStartsWith
  | endsWith
  | notEndsWith
  | greaterThan
  | greaterOrEqual
  | lessThan
  | lessOrEqual
  | isEmpty
  | notEmpty
  | isBlank
  | notBlank
  deriving DecidableEq, Repr

namespace ComparisonOperator

def all : List ComparisonOperator :=
  [equals, notEqual, contains, notContains, startsWith, notStartsWith, endsWith, notEndsWith,
   greaterThan, greaterOrEqual, lessThan, lessOrEqual, isEmpty, notEmpty, isBlank, notBlank]

def keyword : ComparisonOperator → String
  | equals => "EQUALS"
  | notEqual => "NOT_EQUAL"
  | contains => "CONTAINS"
  | notContains => "NOT_CONTAINS"
  | startsWith => "STARTS_WITH"
  | notStartsWith => "NOT_STARTS_WITH"
  | endsWith => "ENDS_WITH"
  | notEndsWith => "NOT_ENDS_WITH"
  | greaterThan => "GREATER_THAN"
  | greaterOrEqual => "GREATER_OR_EQUAL"
  | lessThan => "LESS_THAN"
  | lessOrEqual => "LESS_OR_EQUAL"
  | isEmpty => "IS_EMPTY"
  | notEmpty => "NOT_EMPTY"
  | isBlank => "IS_BLANK"
  | notBlank => "NOT_BLANK"

def ofKeyword? (word : String) : Option ComparisonOperator :=
  all.find? fun op => Text.equalsIgnoringCase op.keyword word

def isUnary : ComparisonOperator → Bool
  | isEmpty | notEmpty | isBlank | notBlank => true
  | _ => false

def negated : ComparisonOperator → ComparisonOperator
  | equals => notEqual
  | notEqual => equals
  | contains => notContains
  | notContains => contains
  | startsWith => notStartsWith
  | notStartsWith => startsWith
  | endsWith => notEndsWith
  | notEndsWith => endsWith
  | greaterThan => lessOrEqual
  | greaterOrEqual => lessThan
  | lessThan => greaterOrEqual
  | lessOrEqual => greaterThan
  | isEmpty => notEmpty
  | notEmpty => isEmpty
  | isBlank => notBlank
  | notBlank => isBlank

end ComparisonOperator

structure Comparison where
  entity : Option Entity
  tag : String
  operator : ComparisonOperator
  value : Option String
  deriving DecidableEq, Repr

inductive LogicalOperator
  | conjunction
  | disjunction
  deriving DecidableEq, Repr

namespace LogicalOperator

def keyword : LogicalOperator → String
  | conjunction => "AND"
  | disjunction => "OR"

end LogicalOperator

inductive Expression
  | logical (operator : LogicalOperator) (left right : Expression)
  | negation (operand : Expression)
  | comparison (comparison : Comparison)
  deriving DecidableEq, Repr

namespace Expression

def height : Expression → Nat
  | logical _ l r => max l.height r.height + 1
  | negation e => e.height + 1
  | comparison _ => 1

end Expression

end Monitoring
