import Monitoring.Remote.AlertingConfiguration
import Monitoring.Resource.Schema
import Monitoring.State.NameFormat

namespace Monitoring.AlertingConfiguration

def schema : Schema :=
  [.required "alert_name" .string "name of the alert",
   .computed "full_alert_name" "name of the alert including the configured prefix and suffix",
   .required "integration_ids" .stringSet "ids of the alerting channels to notify",
   .optional "event_filter_query" .string
     "dynamic focus query restricting the entities of the alert",
   .optional "event_filter_event_types" .stringSet
     "event types triggering the alert, conflicts with event_filter_rule_ids",
   .optional "event_filter_rule_ids" .stringSet
     "rule ids triggering the alert, conflicts with event_filter_event_types"]

def ofState (s : ResourceState) (format : NameFormat) :
    Except StateError AlertingConfiguration := do
  let alertName ← format.fullName s "alert_name" "full_alert_name"
  let eventTypes ← s.stringSet "event_filter_event_types"
  let integrationIds ← s.stringSet "integration_ids"
  let query ← s.string? "event_filter_query"
  let ruleIds ← s.stringSet "event_filter_rule_ids"
  return ⟨s.id.getD "", alertName, integrationIds,
    ⟨query, ruleIds, eventTypes.map EventType.harmonized⟩⟩

def stringsIfAny : List String → Option AttributeValue
  | [] => none
  | items => some (.strings items)

def store (c : AlertingConfiguration) (s : ResourceState) : ResourceState :=
  let f := c.eventFilter
  let s := (s.setId c.id).set "full_alert_name" (.string c.alertName)
  let s := s.set "integration_ids" (.strings c.integrationIds)
  let s := s.setOptional "event_filter_query" (f.query.map .string)
  let s := s.setOptional "event_filter_event_types"
    (stringsIfAny (f.eventTypes.map EventType.harmonized))
  s.setOptional "event_filter_rule_ids" (stringsIfAny f.ruleIds)

end Monitoring.AlertingConfiguration
