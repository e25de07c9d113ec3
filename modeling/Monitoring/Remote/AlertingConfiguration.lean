import Monitoring.Remote.Basic
import Monitoring.Text.LowerCase

namespace Monitoring

namespace EventType

def supported : List String :=
  ["incident", "critical", "warning", "change", "online", "offline", "none",
   "agent_monitoring_issue"]

def isSupported (s : String) : Bool := supported.any fun t => Text.equalsIgnoringCase t s

def same (s t : String) : Bool := Text.equalsIgnoringCase s t

def harmonized (s : String) : String := Text.lowerCase s

end EventType

structure EventFilter where
  query : Option String
  ruleIds : List String
  eventTypes : List String
  deriving DecidableEq, Repr

structure AlertingConfiguration where
  id : String
  alertName : String
  integrationIds : List String
  eventFilter : EventFilter
  deriving DecidableEq, Repr

namespace EventFilter

def maxQueryLength : Nat := 2048

def maxIds : Nat := 1024

open Validation in
def validate (f : EventFilter) : Check := do
  match f.query with
  | some query => maxLength "Query" query maxQueryLength
  | none => .ok ()
  exactlyOne "RuleIDs" (!f.ruleIds.isEmpty) "EventTypes" (!f.eventTypes.isEmpty)
  maxItems "RuleIDs" f.ruleIds maxIds
  unique "RuleIDs" f.ruleIds
  maxItems "EventTypes" f.eventTypes EventType.supported.length
  unique "EventTypes" (f.eventTypes.map EventType.harmonized)
  f.eventTypes.forM fun t => supportedIgnoringCase "EventType" t EventType.supported

def toJson (f : EventFilter) : Json :=
  .object [("query", match f.query with | some query => .string query | none => .null),
    ("ruleIds", .array (f.ruleIds.map .string)), ("eventTypes", .array (f.eventTypes.map .string))]

open Json in
def ofJson? (j : Json) : Option EventFilter := do
  let fields ← j.named? ["query", "ruleIds", "eventTypes"]
  return {
    query := ← optional string? "query" fields
    ruleIds := ← stringsOrEmpty "ruleIds" fields
    eventTypes := ← stringsOrEmpty "eventTypes" fields }

end EventFilter

namespace AlertingConfiguration

def maxNameLength : Nat := 256

def maxIntegrationIds : Nat := 1024

open Validation in
def validate (c : AlertingConfiguration) : Check := do
  nonBlank "ID" c.id
  nonBlank "AlertName" c.alertName
  maxLength "AlertName" c.alertName maxNameLength
  maxItems "IntegrationIDs" c.integrationIds maxIntegrationIds
  unique "IntegrationIDs" c.integrationIds
  c.eventFilter.validate

def toJson (c : AlertingConfiguration) : Json :=
  .object [("id", .string c.id), ("alertName", .string c.alertName),
    ("integrationIds", .array (c.integrationIds.map .string)),
    ("eventFilteringConfiguration", c.eventFilter.toJson)]

open Json in
def ofJson? (j : Json) : Option AlertingConfiguration := do
  let fields ← j.named? ["id", "alertName", "integrationIds", "eventFilteringConfiguration"]
  return {
    id := ← required string? "id" fields
    alertName := ← required string? "alertName" fields
    integrationIds := ← required strings? "integrationIds" fields
    eventFilter := ← required EventFilter.ofJson? "eventFilteringConfiguration" fields }

instance : Storable AlertingConfiguration where
  path := "/events/settings/alerts"
  id := id
  validate := validate
  toJson := toJson
  ofJson? := ofJson?

end AlertingConfiguration

end Monitoring
