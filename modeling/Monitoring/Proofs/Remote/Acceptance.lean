import Monitoring.Proofs.MatchSpecification.Agreement
import Monitoring.Proofs.Remote.Validity
import Monitoring.Remote.RuleBinding

namespace Monitoring

namespace TagFilter

variable {f : TagFilter} {v : ValidationError} {w : MappingError}

structure Valid (f : TagFilter) : Prop where
  name : Text.isBlank f.name = false
  operator : f.operator ∈ supportedOperators
  entity : ∀ entity, f.entity = some entity → entity ∈ supportedEntities
  value : f.value ≠ none ↔ f.operator ∉ unaryOperators

theorem mem_unaryOperators_iff {op : ComparisonOperator} :
    op.wireName ∈ unaryOperators ↔ op.isUnary = true := by
  rw [← List.contains_iff_mem, contains_unaryOperators]

theorem WellFormed.valid (h : f.WellFormed) : f.Valid := by
  obtain ⟨c, ⟨hname, hvalue⟩, rfl⟩ := h
  refine ⟨hname, mem_supportedOperators.mpr ⟨c.operator, rfl⟩, fun word hword => ?_, ?_⟩
  · obtain ⟨entity, -, rfl⟩ := Option.map_eq_some_iff.mp hword
    exact mem_supportedEntities.mpr ⟨entity, rfl⟩
  · have hpresent : (ofComparison c).value ≠ none ↔ c.value.isSome = true :=
      Option.isSome_iff_ne_none.symm
    rw [hpresent, hvalue, Bool.not_eq_true', ← Bool.not_eq_true]
    exact not_congr mem_unaryOperators_iff.symm

theorem Offence.not_valid (h : f.Offence v w) : ¬ f.Valid := by
  rintro ⟨hname, hoperator, hentity, hvalue⟩
  cases h with
  | blankName blank =>
    rw [blank] at hname
    cases hname
  | unknownOperator named unknown =>
    obtain ⟨op, hop⟩ := mem_supportedOperators.mp hoperator
    exact unknown op hop
  | unknownEntity named known present unknown =>
    obtain ⟨entity, he⟩ := mem_supportedEntities.mp (hentity _ present)
    exact unknown entity he
  | @missingValue c named binary absent =>
    have hbinary : (ofComparison c).operator ∉ unaryOperators := by
      rw [ofComparison, mem_unaryOperators_iff, binary]
      exact Bool.false_ne_true
    exact hvalue.mpr hbinary absent
  | @unexpectedValue c value named unary present =>
    have hpresent : (ofComparison c).value ≠ none := by
      rw [ofComparison, present]
      exact Option.some_ne_none value
    exact hvalue.mp hpresent (mem_unaryOperators_iff.mpr unary)

theorem wellFormed_iff_valid : f.WellFormed ↔ f.Valid := by
  refine ⟨WellFormed.valid, fun h => ?_⟩
  obtain hf | ⟨v, w, ho⟩ := f.wellFormed_or_offence
  · exact hf
  · exact absurd h ho.not_valid

end TagFilter

theorem MatchSpecification.validate_eq_ok_iff_forall {m : MatchSpecification} :
    m.validate = .ok () ↔ ∀ f ∈ m.filters, f.Valid := by
  simp only [validate_eq_ok_iff, wellFormed_iff_forall, TagFilter.wellFormed_iff_valid]

theorem Text.isBlank_getD_eq_false_iff {o : Option String} :
    isBlank (o.getD "") = false ↔ ∃ text, o = some text ∧ isBlank text = false := by
  cases o with
  | none => exact ⟨nofun, nofun⟩
  | some text => simp only [Option.getD_some, Option.some.injEq, exists_eq_left']

theorem Validation.distinct_eq_ok_iff {field : String} {items : List String} :
    (notEmpty field items >>= fun _ => unique field items) = .ok () ↔
      items ≠ [] ∧ items.Nodup := by
  simp only [notEmpty, unique, Result.then_eq_ok_iff, ensure_eq_ok_iff, Bool.not_eq_true',
    List.isEmpty_eq_false_iff, decide_eq_true_eq]

namespace AlertingChannel

variable {c : AlertingChannel}

def HasTarget (c : AlertingChannel) : Prop :=
  match c.kind with
  | .email => c.emails ≠ [] ∧ c.emails.Nodup
  | .slack => ∃ url, c.webhookUrl = some url ∧ Text.isBlank url = false
  | .webHook => c.webhookUrls ≠ [] ∧ c.webhookUrls.Nodup

theorem validate_eq_ok_iff :
    c.validate = .ok () ↔ Text.isBlank c.id = false ∧ Text.isBlank c.name = false ∧
      c.name.length ≤ maxNameLength ∧ c.HasTarget := by
  obtain ⟨id, name, kind, emails, webhookUrl, webhookUrls, iconUrl, channel⟩ := c
  simp only [validate, Result.then_eq_ok_iff, Validation.nonBlank, Validation.maxLength,
    Validation.ensure_eq_ok_iff, Bool.not_eq_true', decide_eq_true_eq]
  cases kind with
  | email => simp only [HasTarget, Validation.distinct_eq_ok_iff]
  | slack =>
    simp only [HasTarget, Validation.ensure_eq_ok_iff, Bool.not_eq_true',
      Text.isBlank_getD_eq_false_iff]
  | webHook => simp only [HasTarget, Validation.distinct_eq_ok_iff]

end AlertingChannel

theorem RuleBinding.validate_eq_ok_iff {b : RuleBinding} :
    b.validate = .ok () ↔ Text.isBlank b.id = false ∧ Text.isBlank b.text = false ∧
      Text.isBlank b.description = false ∧ b.ruleIds ≠ [] := by
  simp only [validate, Result.then_eq_ok_iff, Validation.nonBlank, Validation.notEmpty,
    Validation.ensure_eq_ok_iff, Bool.not_eq_true', List.isEmpty_eq_false_iff]

theorem ApplicationConfig.validate_eq_ok_iff {c : ApplicationConfig} :
    c.validate = .ok () ↔ Text.isBlank c.id = false ∧ Text.isBlank c.label = false ∧
      c.label.length ≤ maxLabelLength ∧ (∀ f ∈ c.matchSpecification.filters, f.Valid) ∧
      c.scope ∈ supportedScopes ∧ c.boundaryScope ∈ supportedBoundaryScopes := by
  simp only [validate, Result.then_eq_ok_iff, Validation.nonBlank, Validation.maxLength,
    Validation.supported, Validation.ensure_eq_ok_iff, Bool.not_eq_true', decide_eq_true_eq,
    List.contains_iff_mem, MatchSpecification.validate_eq_ok_iff_forall]

theorem validation_accepts_documented :
    (∀ c : AlertingConfiguration, c.validate = .ok () ↔
      Text.isBlank c.id = false ∧ Text.isBlank c.alertName = false ∧ c.alertName.length ≤ 256 ∧
      (c.integrationIds.length ≤ 1024 ∧ c.integrationIds.Nodup) ∧
      (∀ query, c.eventFilter.query = some query → query.length ≤ 2048) ∧
      (c.eventFilter.ruleIds ≠ [] ↔ c.eventFilter.eventTypes = []) ∧
      (c.eventFilter.ruleIds.length ≤ 1024 ∧ c.eventFilter.ruleIds.Nodup) ∧
      (c.eventFilter.eventTypes.length ≤ 8 ∧ (c.eventFilter.eventTypes.map Text.lowerCase).Nodup) ∧
      ∀ type ∈ c.eventFilter.eventTypes,
        ∃ word ∈ EventType.supported, Text.equalsIgnoringCase word type = true) ∧
    (∀ c : AlertingChannel, c.validate = .ok () ↔
      Text.isBlank c.id = false ∧ Text.isBlank c.name = false ∧ c.name.length ≤ 256 ∧
      c.HasTarget) ∧
    (∀ b : RuleBinding, b.validate = .ok () ↔
      Text.isBlank b.id = false ∧ Text.isBlank b.text = false ∧
      Text.isBlank b.description = false ∧ b.ruleIds ≠ []) ∧
    ∀ c : ApplicationConfig, c.validate = .ok () ↔
      Text.isBlank c.id = false ∧ Text.isBlank c.label = false ∧ c.label.length ≤ 256 ∧
      (∀ f ∈ c.matchSpecification.filters, f.Valid) ∧
      c.scope ∈ ApplicationConfig.supportedScopes ∧
      c.boundaryScope ∈ ApplicationConfig.supportedBoundaryScopes := by
  refine ⟨fun c => ?_, fun c => AlertingChannel.validate_eq_ok_iff,
    fun b => RuleBinding.validate_eq_ok_iff, fun c => ApplicationConfig.validate_eq_ok_iff⟩
  rw [AlertingConfiguration.validate_eq_ok_iff]
  constructor
  · rintro ⟨hid, ⟨hblank, hlength⟩, hids, hquery, hchoice, hrules, htypes, hsupported⟩
    refine ⟨hid, hblank, hlength, hids, hquery, ?_, hrules, htypes, fun type htype => ?_⟩
    · rw [ne_eq, hchoice, not_ne_iff]
    · exact EventType.isSupported_iff.mp (hsupported type htype)
  · rintro ⟨hid, hblank, hlength, hids, hquery, hchoice, hrules, htypes, hsupported⟩
    refine ⟨hid, ⟨hblank, hlength⟩, hids, hquery, ?_, hrules, htypes, fun type htype => ?_⟩
    · rw [ne_eq, ← hchoice, not_ne_iff]
    · exact EventType.isSupported_iff.mpr (hsupported type htype)

def longAlert (letters : Nat) : AlertingConfiguration :=
  ⟨"long", .ofList (List.replicate letters 'ä'), [], ⟨none, [], ["CRITICAL", "Offline"]⟩⟩

theorem length_longAlert (letters : Nat) : (longAlert letters).alertName.length = letters := by
  rw [longAlert, String.length_ofList, List.length_replicate]

theorem validation_accepts_longAlert :
    (longAlert 256).validate = .ok () ∧ (longAlert 257).validate ≠ .ok () := by
  constructor
  · have hblank : Text.isBlank (longAlert 256).alertName = false := by
      rw [longAlert, Text.isBlank, String.toList_ofList]
      decide
    exact (validation_accepts_documented.1 (longAlert 256)).mpr ⟨by decide, hblank,
      Nat.le_of_eq (length_longAlert 256), by decide, nofun, by decide, by decide,
      by decide +kernel, by decide +kernel⟩
  · intro h
    have hlength := ((validation_accepts_documented.1 (longAlert 257)).mp h).2.2.1
    rw [length_longAlert] at hlength
    exact absurd hlength (by decide)

end Monitoring
