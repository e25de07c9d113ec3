import Monitoring.Proofs.Json.Narrowing
import Monitoring.Remote.AlertingChannel
import Monitoring.Remote.AlertingConfiguration
import Monitoring.Remote.RuleBinding

namespace Monitoring

open Json (named?_canonical_object optional_of_field? required_of_field? stringsOrEmpty_of_array
  stringsOrEmpty_of_field? strings?_array_map_string)

theorem ChannelKind.ofJson?_name (k : ChannelKind) : ofJson? (.string k.name) = some k := by
  cases k <;> rfl

namespace AlertingChannel

def known : Json.Known :=
  .flat ["id", "name", "kind", "emails", "webhookUrl", "webhookUrls", "iconUrl", "channel"]

theorem ofJson?_of_widens {c : AlertingChannel} {j : Json} (h : j.Widens known c.toJson) :
    ofJson? j.canonical = some c := by
  have hid : j.canonical.field? "id" = some (.string c.id) := by
    rw [h.field?_flat (by simp)]
    simp [toJson, List.lookup_append]
  have hname : j.canonical.field? "name" = some (.string c.name) := by
    rw [h.field?_flat (by simp)]
    simp [toJson, List.lookup_append]
  have hkind : j.canonical.field? "kind" = some (.string c.kind.name) := by
    rw [h.field?_flat (by simp)]
    simp [toJson, List.lookup_append]
  have hemails : j.canonical.field? "emails" =
      if c.emails = [] then none else some (.array (c.emails.map .string)) := by
    rw [h.field?_flat (by simp)]
    by_cases h : c.emails = [] <;> simp [toJson, List.lookup_append, h]
  have hwebhookUrl : j.canonical.field? "webhookUrl" = c.webhookUrl.map .string := by
    rw [h.field?_flat (by simp)]
    cases h : c.webhookUrl <;> simp [toJson, List.lookup_append, h]
  have hwebhookUrls : j.canonical.field? "webhookUrls" =
      if c.webhookUrls = [] then none else some (.array (c.webhookUrls.map .string)) := by
    rw [h.field?_flat (by simp)]
    by_cases h : c.webhookUrls = [] <;> simp [toJson, List.lookup_append, h]
  have hiconUrl : j.canonical.field? "iconUrl" = c.iconUrl.map .string := by
    rw [h.field?_flat (by simp)]
    cases h : c.iconUrl <;> simp [toJson, List.lookup_append, h]
  have hchannel : j.canonical.field? "channel" = c.channel.map .string := by
    rw [h.field?_flat (by simp)]
    cases h : c.channel <;> simp [toJson, List.lookup_append, h]
  obtain ⟨fields, rfl⟩ := h.exists_object
  rw [ofJson?, named?_canonical_object]
  simp only [Option.bind_eq_bind, Option.bind_some, required_of_field? hid,
    required_of_field? hname, required_of_field? hkind, stringsOrEmpty_of_field? hemails,
    optional_of_field? hwebhookUrl, stringsOrEmpty_of_field? hwebhookUrls,
    optional_of_field? hiconUrl, optional_of_field? hchannel, ChannelKind.ofJson?_name]
  rfl

theorem narrow_toJson (c : AlertingChannel) : c.toJson.narrow known = c.toJson := by
  refine Json.narrow_flat fun field h => ?_
  simp only [List.mem_append] at h
  obtain ((((h | h) | h) | h) | h) | h := h
  · simp only [List.mem_cons, List.not_mem_nil, or_false] at h
    obtain rfl | rfl | rfl := h <;> simp
  · simp [Json.fst_of_mem_nonEmptyField h]
  · simp [Json.fst_of_mem_optionalField h]
  · simp [Json.fst_of_mem_nonEmptyField h]
  · simp [Json.fst_of_mem_optionalField h]
  · simp [Json.fst_of_mem_optionalField h]

theorem ofJson?_canonical (c : AlertingChannel) : ofJson? c.toJson.canonical = some c :=
  ofJson?_of_widens (.of_narrow_eq c.narrow_toJson)

theorem legible_toJson (c : AlertingChannel) : c.toJson.Legible := by
  rw [toJson, Json.Legible, Json.legibleFields_iff]
  intro field h
  simp only [List.mem_append] at h
  obtain ((((h | h) | h) | h) | h) | h := h
  · simp only [List.mem_cons, List.not_mem_nil, or_false] at h
    obtain rfl | rfl | rfl := h <;> trivial
  · exact Json.legible_of_mem_nonEmptyField h
  · exact Json.legible_of_mem_optionalField h
  · exact Json.legible_of_mem_nonEmptyField h
  · exact Json.legible_of_mem_optionalField h
  · exact Json.legible_of_mem_optionalField h

theorem depth_toJson_le (c : AlertingChannel) : c.toJson.depth ≤ 2 := by
  rw [toJson, Json.depth]
  apply Nat.succ_le_succ
  rw [Json.depthOfFields_le_iff]
  intro field h
  simp only [List.mem_append] at h
  obtain ((((h | h) | h) | h) | h) | h := h
  · simp only [List.mem_cons, List.not_mem_nil, or_false] at h
    obtain rfl | rfl | rfl := h <;> exact Nat.zero_le 1
  · exact Json.depth_le_of_mem_nonEmptyField h
  · exact Json.depth_le_of_mem_optionalField h
  · exact Json.depth_le_of_mem_nonEmptyField h
  · exact Json.depth_le_of_mem_optionalField h
  · exact Json.depth_le_of_mem_optionalField h

end AlertingChannel

namespace EventFilter

def known : Json.Known := .flat ["query", "ruleIds", "eventTypes"]

theorem ofJson?_of_widens {f : EventFilter} {j : Json} (h : j.Widens known f.toJson) :
    ofJson? j.canonical = some f := by
  have hquery : j.canonical.field? "query" = some ((f.query.map .string).getD .null) := by
    rw [h.field?_flat (by simp)]
    cases h : f.query with
    | none =>
      simp only [toJson, h, Json.field?_canonical_object]
      rfl
    | some query => simp [toJson, h]
  have hruleIds : j.canonical.field? "ruleIds" = some (.array (f.ruleIds.map .string)) := by
    rw [h.field?_flat (by simp)]
    simp [toJson]
  have heventTypes : j.canonical.field? "eventTypes" =
      some (.array (f.eventTypes.map .string)) := by
    rw [h.field?_flat (by simp)]
    simp [toJson]
  obtain ⟨fields, rfl⟩ := h.exists_object
  have hread : Json.optional Json.string? "query" (Json.canonicalFields [] fields) =
      some f.query := by
    have hl : (Json.canonicalFields [] fields).lookup "query" = _ := hquery
    rw [Json.optional, hl]
    cases f.query <;> rfl
  rw [ofJson?, named?_canonical_object]
  simp only [Option.bind_eq_bind, Option.bind_some, hread, stringsOrEmpty_of_array hruleIds,
    stringsOrEmpty_of_array heventTypes]
  rfl

theorem narrow_toJson (f : EventFilter) : f.toJson.narrow known = f.toJson := by
  refine Json.narrow_flat fun field h => ?_
  simp only [List.mem_cons, List.not_mem_nil, or_false] at h
  obtain rfl | rfl | rfl := h <;> simp

theorem legible_toJson (f : EventFilter) : f.toJson.Legible := by
  obtain ⟨query, ruleIds, eventTypes⟩ := f
  have hruleIds := Json.legibleItems_map_string ruleIds
  have heventTypes := Json.legibleItems_map_string eventTypes
  cases query with
  | none => exact ⟨trivial, hruleIds, heventTypes, trivial⟩
  | some query => exact ⟨trivial, hruleIds, heventTypes, trivial⟩

theorem depth_toJson (f : EventFilter) : f.toJson.depth = 2 := by
  obtain ⟨query, ruleIds, eventTypes⟩ := f
  cases query <;>
    simp only [toJson, Json.depth, Json.depthOfFields, Json.depthOfItems_map_string] <;> rfl

end EventFilter

namespace AlertingConfiguration

def known : Json.Known :=
  .record [("id", .value), ("alertName", .value), ("integrationIds", .value),
    ("eventFilteringConfiguration", EventFilter.known)]

theorem ofJson?_of_widens {c : AlertingConfiguration} {j : Json} (h : j.Widens known c.toJson) :
    ofJson? j.canonical = some c := by
  have hid : j.canonical.field? "id" = some (.string c.id) := by
    rw [h.field?_value rfl]
    simp [toJson]
  have halertName : j.canonical.field? "alertName" = some (.string c.alertName) := by
    rw [h.field?_value rfl]
    simp [toJson]
  have hintegrationIds : j.canonical.field? "integrationIds" =
      some (.array (c.integrationIds.map .string)) := by
    rw [h.field?_value rfl]
    simp [toJson]
  have hfilter : c.toJson.canonical.field? "eventFilteringConfiguration" =
      some c.eventFilter.toJson.canonical := by
    simp [toJson]
  obtain ⟨fields, rfl⟩ := h.exists_object
  obtain ⟨filter, hwidens, heventFilter⟩ := h.exists_field rfl rfl hfilter
  rw [ofJson?, named?_canonical_object]
  simp only [Option.bind_eq_bind, Option.bind_some, required_of_field? hid,
    required_of_field? halertName, required_of_field? hintegrationIds,
    required_of_field? heventFilter, strings?_array_map_string,
    EventFilter.ofJson?_of_widens hwidens]
  rfl

theorem narrow_toJson (c : AlertingConfiguration) : c.toJson.narrow known = c.toJson := by
  refine congrArg Json.object (Json.narrowFields_eq_self fun field h => ?_)
  simp only [List.mem_cons, List.not_mem_nil, or_false] at h
  obtain rfl | rfl | rfl | rfl := h
  · exact ⟨.value, rfl, Json.narrow_value _⟩
  · exact ⟨.value, rfl, Json.narrow_value _⟩
  · exact ⟨.value, rfl, Json.narrow_value _⟩
  · exact ⟨EventFilter.known, rfl, c.eventFilter.narrow_toJson⟩

theorem ofJson?_canonical (c : AlertingConfiguration) : ofJson? c.toJson.canonical = some c :=
  ofJson?_of_widens (.of_narrow_eq c.narrow_toJson)

theorem legible_toJson (c : AlertingConfiguration) : c.toJson.Legible :=
  ⟨trivial, trivial, Json.legibleItems_map_string c.integrationIds,
    c.eventFilter.legible_toJson, trivial⟩

theorem depth_toJson (c : AlertingConfiguration) : c.toJson.depth = 3 := by
  rw [toJson]
  simp only [Json.depth, Json.depthOfFields, Json.depthOfItems_map_string,
    EventFilter.depth_toJson]
  rfl

end AlertingConfiguration

namespace RuleBinding

def known : Json.Known :=
  .flat ["id", "enabled", "triggering", "severity", "text", "description", "expirationTime",
    "query", "ruleIds"]

theorem int32?_integer (n : Int32) : int32? (.integer n.toInt) = some n := by
  have hn : Int32.minValue.toInt ≤ n.toInt ∧ n.toInt ≤ Int32.maxValue.toInt :=
    ⟨n.minValue_le_toInt, n.toInt_le⟩
  simp only [int32?, Json.integer?, Option.bind_eq_bind, Option.bind_some, if_pos hn,
    Int32.ofInt_toInt]
  rfl

theorem int64?_integer (n : Int64) : int64? (.integer n.toInt) = some n := by
  have hn : Int64.minValue.toInt ≤ n.toInt ∧ n.toInt ≤ Int64.maxValue.toInt :=
    ⟨n.minValue_le_toInt, n.toInt_le⟩
  simp only [int64?, Json.integer?, Option.bind_eq_bind, Option.bind_some, if_pos hn,
    Int64.ofInt_toInt]
  rfl

theorem ofJson?_of_widens {b : RuleBinding} {j : Json} (h : j.Widens known b.toJson) :
    ofJson? j.canonical = some b := by
  have hid : j.canonical.field? "id" = some (.string b.id) := by
    rw [h.field?_flat (by simp)]
    simp [toJson, List.lookup_append]
  have henabled : j.canonical.field? "enabled" = some (.boolean b.enabled) := by
    rw [h.field?_flat (by simp)]
    simp [toJson, List.lookup_append]
  have htriggering : j.canonical.field? "triggering" = some (.boolean b.triggering) := by
    rw [h.field?_flat (by simp)]
    simp [toJson, List.lookup_append]
  have hseverity : j.canonical.field? "severity" = some (.integer b.severity.toInt) := by
    rw [h.field?_flat (by simp)]
    simp [toJson, List.lookup_append]
  have htext : j.canonical.field? "text" = some (.string b.text) := by
    rw [h.field?_flat (by simp)]
    simp [toJson, List.lookup_append]
  have hdescription : j.canonical.field? "description" = some (.string b.description) := by
    rw [h.field?_flat (by simp)]
    simp [toJson, List.lookup_append]
  have hexpirationTime : j.canonical.field? "expirationTime" =
      some (.integer b.expirationTime.toInt) := by
    rw [h.field?_flat (by simp)]
    simp [toJson, List.lookup_append]
  have hquery : j.canonical.field? "query" = b.query.map .string := by
    rw [h.field?_flat (by simp)]
    cases h : b.query <;> simp [toJson, List.lookup_append, h]
  have hruleIds : j.canonical.field? "ruleIds" = some (.array (b.ruleIds.map .string)) := by
    rw [h.field?_flat (by simp)]
    simp [toJson]
  obtain ⟨fields, rfl⟩ := h.exists_object
  rw [ofJson?, named?_canonical_object]
  simp only [Option.bind_eq_bind, Option.bind_some, required_of_field? hid,
    required_of_field? henabled, required_of_field? htriggering, required_of_field? hseverity,
    required_of_field? htext, required_of_field? hdescription, required_of_field? hexpirationTime,
    optional_of_field? hquery, required_of_field? hruleIds, int32?_integer, int64?_integer,
    strings?_array_map_string]
  rfl

theorem narrow_toJson (b : RuleBinding) : b.toJson.narrow known = b.toJson := by
  refine Json.narrow_flat fun field h => ?_
  simp only [List.mem_append] at h
  obtain (h | h) | h := h
  · simp only [List.mem_cons, List.not_mem_nil, or_false] at h
    obtain rfl | rfl | rfl | rfl | rfl | rfl | rfl := h <;> simp
  · simp [Json.fst_of_mem_optionalField h]
  · simp [List.mem_singleton.mp h]

theorem legible_toJson (b : RuleBinding) : b.toJson.Legible := by
  have hseverity : Json.IsInteger64 b.severity.toInt := by
    have hlow := b.severity.le_toInt
    have hhigh := b.severity.toInt_lt
    constructor
    · exact Int.le_trans (by decide) hlow
    · exact Int.lt_trans hhigh (by decide)
  have hexpirationTime : Json.IsInteger64 b.expirationTime.toInt :=
    ⟨b.expirationTime.minValue_le_toInt, Int.lt_trans b.expirationTime.toInt_lt (by decide)⟩
  rw [toJson, Json.Legible, Json.legibleFields_iff]
  intro field h
  simp only [List.mem_append] at h
  obtain (h | h) | h := h
  · simp only [List.mem_cons, List.not_mem_nil, or_false] at h
    obtain rfl | rfl | rfl | rfl | rfl | rfl | rfl := h
    · trivial
    · trivial
    · trivial
    · exact hseverity
    · trivial
    · trivial
    · exact hexpirationTime
  · exact Json.legible_of_mem_optionalField h
  · obtain rfl := List.mem_singleton.mp h
    exact Json.legibleItems_map_string b.ruleIds

end RuleBinding

end Monitoring
