import Monitoring.Proofs.Result
import Monitoring.Proofs.Text.LowerCase
import Monitoring.Remote.AlertingConfiguration

namespace Monitoring

namespace EventType

variable {s : String}

theorem isSupported_iff :
    isSupported s = true ↔ ∃ t ∈ supported, Text.equalsIgnoringCase t s = true := by
  rw [isSupported, List.any_eq_true]

theorem isSupported_of_mem (h : s ∈ supported) : isSupported s = true :=
  isSupported_iff.mpr ⟨s, h, beq_self_eq_true _⟩

theorem ascii_supported : ∀ t ∈ supported, ∀ c ∈ t.toList, c.toNat < 128 := by
  have h : (supported.all fun t => t.toList.all fun c => decide (c.toNat < 128)) = true := by
    decide +kernel
  simpa only [List.all_eq_true, decide_eq_true_eq] using h

theorem lower_supported : ∀ t ∈ supported, t.toList.map Char.toLower = t.toList := by
  decide +kernel

theorem harmonized_eq_of_equalsIgnoringCase {t : String} (ht : t ∈ supported)
    (h : Text.equalsIgnoringCase t s = true) : harmonized s = t :=
  Text.lowerCase_eq_of_equalsIgnoringCase (ascii_supported t ht) (lower_supported t ht) h

theorem harmonized_mem_supported (h : isSupported s = true) : harmonized s ∈ supported := by
  obtain ⟨t, ht, hs⟩ := isSupported_iff.mp h
  rwa [harmonized_eq_of_equalsIgnoringCase ht hs]

theorem harmonized_of_mem (h : s ∈ supported) : harmonized s = s :=
  harmonized_eq_of_equalsIgnoringCase h (beq_self_eq_true _)

theorem map_harmonized_harmonized {types : List String}
    (h : ∀ t ∈ types, isSupported t = true) :
    (types.map harmonized).map harmonized = types.map harmonized := by
  rw [List.map_map]
  exact List.map_congr_left fun t ht => harmonized_of_mem (harmonized_mem_supported (h t ht))

end EventType

namespace Validation

theorem ensure_eq_error_iff {condition : Bool} {e e' : ValidationError} :
    ensure condition e = .error e' ↔ condition = false ∧ e = e' := by
  cases condition <;> simp [ensure]

end Validation

namespace EventFilter

variable {f : EventFilter}

def checkQuery : Option String → Validation.Check
  | some query => Validation.maxLength "Query" query maxQueryLength
  | none => .ok ()

open Validation in
def checkChoice (f : EventFilter) : Check := do
  exactlyOne "RuleIDs" (!f.ruleIds.isEmpty) "EventTypes" (!f.eventTypes.isEmpty)
  maxItems "RuleIDs" f.ruleIds maxIds
  unique "RuleIDs" f.ruleIds
  maxItems "EventTypes" f.eventTypes EventType.supported.length
  unique "EventTypes" (f.eventTypes.map EventType.harmonized)
  f.eventTypes.forM fun t => supportedIgnoringCase "EventType" t EventType.supported

theorem validate_eq (f : EventFilter) :
    f.validate = (checkQuery f.query >>= fun _ => f.checkChoice) := by
  obtain ⟨query, ruleIds, eventTypes⟩ := f
  cases query <;> rfl

structure Valid (f : EventFilter) : Prop where
  query : ∀ query, f.query = some query → query.length ≤ maxQueryLength
  choice : f.ruleIds = [] ↔ f.eventTypes ≠ []
  ruleIds : f.ruleIds.length ≤ maxIds ∧ f.ruleIds.Nodup
  eventTypes : f.eventTypes.length ≤ EventType.supported.length ∧
    (f.eventTypes.map EventType.harmonized).Nodup
  supported : ∀ t ∈ f.eventTypes, EventType.isSupported t = true

theorem checkQuery_eq_ok_iff {query : Option String} :
    checkQuery query = .ok () ↔ ∀ text, query = some text → text.length ≤ maxQueryLength := by
  cases query with
  | none => exact ⟨fun _ => nofun, fun _ => rfl⟩
  | some text =>
    simp only [checkQuery, Validation.maxLength, Validation.ensure_eq_ok_iff, decide_eq_true_eq,
      Option.some.injEq, forall_eq']

theorem exactlyOne_eq_ok_iff {first second : String} {rules types : List String} :
    Validation.exactlyOne first (!rules.isEmpty) second (!types.isEmpty) = .ok () ↔
      (rules = [] ↔ types ≠ []) := by
  rw [Validation.exactlyOne, Validation.ensure_eq_ok_iff]
  cases rules <;> cases types <;> simp

theorem validate_eq_ok_iff : f.validate = .ok () ↔ f.Valid := by
  simp only [validate_eq, checkChoice, Result.then_eq_ok_iff, checkQuery_eq_ok_iff,
    exactlyOne_eq_ok_iff, Validation.maxItems, Validation.unique, Validation.supportedIgnoringCase,
    Validation.ensure_eq_ok_iff, Result.forM_eq_ok_iff, decide_eq_true_eq]
  constructor
  · rintro ⟨hquery, hchoice, hruleIds, hrules, htypes, hdistinct, hsupported⟩
    exact ⟨hquery, hchoice, ⟨hruleIds, hrules⟩, ⟨htypes, hdistinct⟩, hsupported⟩
  · rintro ⟨hquery, hchoice, ⟨hruleIds, hrules⟩, ⟨htypes, hdistinct⟩, hsupported⟩
    exact ⟨hquery, hchoice, hruleIds, hrules, htypes, hdistinct, hsupported⟩

theorem repeated_of_validate {field : String} (h : f.validate = .error (.notUnique field)) :
    (field = "RuleIDs" ∧ ¬ f.ruleIds.Nodup) ∨
      (field = "EventTypes" ∧ ¬ (f.eventTypes.map EventType.harmonized).Nodup) := by
  rw [validate_eq] at h
  obtain hquery | ⟨_, -, h⟩ := Result.bind_eq_error_iff.mp h
  · unfold checkQuery at hquery
    split at hquery
    · exact nomatch (Validation.ensure_eq_error_iff.mp hquery).2
    · cases hquery
  · simp only [checkChoice, Result.bind_eq_error_iff, Validation.exactlyOne, Validation.maxItems,
      Validation.unique, Validation.ensure_eq_error_iff, decide_eq_false_iff_not, reduceCtorEq,
      and_false, false_or, ValidationError.notUnique.injEq] at h
    obtain ⟨_, -, _, -, ⟨hrules, hfield⟩ | ⟨_, -, _, -, h⟩⟩ := h
    · exact .inl ⟨hfield.symm, hrules⟩
    · obtain ⟨htypes, hfield⟩ | ⟨_, -, hsupported⟩ := h
      · exact .inr ⟨hfield.symm, htypes⟩
      · obtain ⟨type, -, htype⟩ := Result.exists_of_forM_eq_error hsupported
        exact nomatch (Validation.ensure_eq_error_iff.mp htype).2

end EventFilter

structure AlertingConfiguration.Valid (c : AlertingConfiguration) : Prop where
  id : Text.isBlank c.id = false
  alertName : Text.isBlank c.alertName = false ∧ c.alertName.length ≤ maxNameLength
  integrationIds : c.integrationIds.length ≤ maxIntegrationIds ∧ c.integrationIds.Nodup
  eventFilter : c.eventFilter.Valid

theorem AlertingConfiguration.validate_eq_ok_iff {c : AlertingConfiguration} :
    c.validate = .ok () ↔ c.Valid := by
  simp only [validate, Result.then_eq_ok_iff, Validation.nonBlank, Validation.maxLength,
    Validation.maxItems, Validation.unique, Validation.ensure_eq_ok_iff,
    EventFilter.validate_eq_ok_iff, Bool.not_eq_true', decide_eq_true_eq]
  constructor
  · rintro ⟨hid, hblank, hlength, hcount, hunique, hfilter⟩
    exact ⟨hid, ⟨hblank, hlength⟩, ⟨hcount, hunique⟩, hfilter⟩
  · rintro ⟨hid, ⟨hblank, hlength⟩, ⟨hcount, hunique⟩, hfilter⟩
    exact ⟨hid, hblank, hlength, hcount, hunique, hfilter⟩

theorem AlertingConfiguration.repeated_of_validate {c : AlertingConfiguration} {field : String}
    (h : c.validate = .error (.notUnique field)) :
    (field = "IntegrationIDs" ∧ ¬ c.integrationIds.Nodup) ∨
      (field = "RuleIDs" ∧ ¬ c.eventFilter.ruleIds.Nodup) ∨
      (field = "EventTypes" ∧ ¬ (c.eventFilter.eventTypes.map EventType.harmonized).Nodup) := by
  simp only [validate, Result.bind_eq_error_iff, Validation.nonBlank, Validation.maxLength,
    Validation.maxItems, Validation.unique, Validation.ensure_eq_error_iff,
    decide_eq_false_iff_not, reduceCtorEq, and_false, false_or,
    ValidationError.notUnique.injEq] at h
  obtain ⟨_, -, _, -, _, -, _, -, ⟨hids, hfield⟩ | ⟨_, -, hfilter⟩⟩ := h
  · exact .inl ⟨hfield.symm, hids⟩
  · exact .inr (EventFilter.repeated_of_validate hfilter)

end Monitoring
