import Monitoring.Expression.Basic
import Monitoring.Json.Reader
import Monitoring.Json.Record
import Monitoring.Validation

/-!
Match specifications: the form in which the interface stores match expressions. They have no
negation; operators and entities are kept as the words they came with until they are validated.
-/

namespace Monitoring

namespace ComparisonOperator

def wireName : ComparisonOperator → String
  | notContains => "NOT_CONTAIN"
  | greaterOrEqual => "GREATER_OR_EQUAL_THAN"
  | lessOrEqual => "LESS_OR_EQUAL_THAN"
  | other => other.keyword

def ofWireName? (name : String) : Option ComparisonOperator :=
  all.find? fun op => op.wireName = name

end ComparisonOperator

namespace Entity

def wireName : Entity → String
  | source => "SOURCE"
  | destination => "DESTINATION"
  | notApplicable => "NOT_APPLICABLE"

def ofWireName? (name : String) : Option Entity := all.find? fun e => e.wireName = name

end Entity

structure TagFilter where
  name : String
  operator : String
  entity : Option String
  value : Option String
  deriving DecidableEq, Repr

inductive MatchSpecification
  | tagFilter (filter : TagFilter)
  | logical (left : MatchSpecification) (operator : LogicalOperator) (right : MatchSpecification)
  deriving DecidableEq, Repr

namespace TagFilter

def supportedOperators : List String :=
  ["EQUALS", "NOT_EQUAL", "CONTAINS", "NOT_CONTAIN", "STARTS_WITH", "NOT_STARTS_WITH",
   "ENDS_WITH", "NOT_ENDS_WITH", "GREATER_THAN", "GREATER_OR_EQUAL_THAN", "LESS_THAN",
   "LESS_OR_EQUAL_THAN", "IS_EMPTY", "NOT_EMPTY", "IS_BLANK", "NOT_BLANK"]

def unaryOperators : List String := ["IS_EMPTY", "NOT_EMPTY", "IS_BLANK", "NOT_BLANK"]

def supportedEntities : List String := ["SOURCE", "DESTINATION", "NOT_APPLICABLE"]

open Validation in
def validate (f : TagFilter) : Check := do
  nonBlank "MatchSpecification.Name" f.name
  supported "MatchSpecification.Operator" f.operator supportedOperators
  match f.entity with
  | some entity => supported "MatchSpecification.Entity" entity supportedEntities
  | none => .ok ()
  match f.value, unaryOperators.contains f.operator with
  | none, false => .error (.missing "MatchSpecification.Value")
  | some _, true => .error (.superfluous "MatchSpecification.Value" f.operator)
  | _, _ => .ok ()

def toJson (f : TagFilter) : Json :=
  .object ([("type", .string "TAG_FILTER"), ("name", .string f.name),
    ("operator", .string f.operator)] ++
    Json.optionalField "entity" f.entity ++ Json.optionalField "value" f.value)

def ofJson? (j : Json) : Option TagFilter := do
  let fields ← j.named? ["name", "operator", "entity", "value"]
  return {
    name := ← Json.required Json.string? "name" fields
    operator := ← Json.required Json.string? "operator" fields
    entity := ← Json.optional Json.string? "entity" fields
    value := ← Json.optional Json.string? "value" fields }

end TagFilter

namespace MatchSpecification

def validate : MatchSpecification → Validation.Check
  | tagFilter f => f.validate
  | logical l _ r => do
    l.validate
    r.validate

def toJson : MatchSpecification → Json
  | tagFilter f => f.toJson
  | logical l c r =>
    .object [("type", .string "BINARY_OP"), ("left", l.toJson), ("conjunction", .string c.keyword),
      ("right", r.toJson)]

def conjunctionOfName? (name : String) : Option LogicalOperator :=
  [LogicalOperator.conjunction, .disjunction].find? fun c => c.keyword = name

def conjunction? : Json → Option LogicalOperator
  | .string name => conjunctionOfName? name
  | .object [(name, .null)] => conjunctionOfName? name
  | .object [(name, .object [])] => conjunctionOfName? name
  | _ => none

def forms : List String := ["BINARY_OP", "TAG_FILTER"]

/-- Below the root a form is given by its name or by its place among the forms. -/
def partForm? : Json → Option String
  | .integer n => if 0 ≤ n then forms[n.toNat]? else none
  | j => j.string?

def formOf? (form? : Json → Option String) (fields : List (String × Json)) : Option String :=
  match fields.filter fun field => field.1 = "type" with
  | [(_, j)] => form? j
  | _ => none

def assemble? (form : String) (body : Json)
    (parts : List (String × Option MatchSpecification)) : Option MatchSpecification :=
  if form = "TAG_FILTER" then (TagFilter.ofJson? body).map tagFilter
  else if form = "BINARY_OP" then do
    let fields ← body.named? ["left", "conjunction", "right"]
    let left ← (parts.lookup "left").join
    let operator ← Json.required conjunction? "conjunction" fields
    let right ← (parts.lookup "right").join
    return logical left operator right
  else none

mutual

def decode? (form? : Json → Option String) : Json → Option MatchSpecification
  | .object fields => do
    let form ← formOf? form? fields
    assemble? form (.object fields) (partsOfFields fields)
  | .array (head :: items) => do
    let form ← form? head
    assemble? form (.array items) (["left", "conjunction", "right"].zip (partsOfItems items))
  | _ => none

def partsOfFields : List (String × Json) → List (String × Option MatchSpecification)
  | [] => []
  | (name, j) :: rest => (name, decode? partForm? j) :: partsOfFields rest

def partsOfItems : List Json → List (Option MatchSpecification)
  | [] => []
  | j :: rest => decode? partForm? j :: partsOfItems rest

end

def ofJson? (j : Json) : Option MatchSpecification := decode? Json.string? j

def parse? (text : String) : Option MatchSpecification := (Json.parse text).bind ofJson?

end MatchSpecification

end Monitoring
