import Monitoring.Remote.Basic

namespace Monitoring

structure RuleBinding where
  id : String
  enabled : Bool
  triggering : Bool
  severity : Int32
  text : String
  description : String
  expirationTime : Int64
  query : Option String
  ruleIds : List String
  deriving DecidableEq

namespace RuleBinding

open Validation in
def validate (b : RuleBinding) : Check := do
  nonBlank "ID" b.id
  nonBlank "Text" b.text
  nonBlank "Description" b.description
  notEmpty "RuleIds" b.ruleIds

def toJson (b : RuleBinding) : Json :=
  .object ([("id", .string b.id), ("enabled", .boolean b.enabled),
    ("triggering", .boolean b.triggering), ("severity", .integer b.severity.toInt),
    ("text", .string b.text), ("description", .string b.description),
    ("expirationTime", .integer b.expirationTime.toInt)] ++
    Json.optionalField "query" b.query ++ [("ruleIds", .array (b.ruleIds.map .string))])

def int32? (j : Json) : Option Int32 := do
  let n ← j.integer?
  if Int32.minValue.toInt ≤ n ∧ n ≤ Int32.maxValue.toInt then return Int32.ofInt n else none

def int64? (j : Json) : Option Int64 := do
  let n ← j.integer?
  if Int64.minValue.toInt ≤ n ∧ n ≤ Int64.maxValue.toInt then return Int64.ofInt n else none

open Json in
def ofJson? (j : Json) : Option RuleBinding := do
  let fields ← j.named? ["id", "enabled", "triggering", "severity", "text", "description",
    "expirationTime", "query", "ruleIds"]
  return {
    id := ← required string? "id" fields
    enabled := ← required boolean? "enabled" fields
    triggering := ← required boolean? "triggering" fields
    severity := ← required int32? "severity" fields
    text := ← required string? "text" fields
    description := ← required string? "description" fields
    expirationTime := ← required int64? "expirationTime" fields
    query := ← optional string? "query" fields
    ruleIds := ← required strings? "ruleIds" fields }

instance : Storable RuleBinding where
  path := "/ruleBindings"
  id := id
  validate := validate
  toJson := toJson
  ofJson? := ofJson?

end RuleBinding

end Monitoring
