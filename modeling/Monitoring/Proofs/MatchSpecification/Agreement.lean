import Monitoring.Proofs.MatchSpecification.Mapping
import Monitoring.Proofs.Resource.ApplicationMapping
import Monitoring.Proofs.Resource.Storing

namespace Monitoring

namespace TagFilter

variable {f : TagFilter} {v : ValidationError} {w : MappingError}

/-- What is wrong with a filter, as validation and as mapping report it. Of several causes the
first counts: name, operator, entity, value. -/
inductive Offence : TagFilter → ValidationError → MappingError → Prop
  | blankName {f : TagFilter} (blank : Text.isBlank f.name = true) :
      Offence f (.missing "MatchSpecification.Name") .blankTag
  | unknownOperator {f : TagFilter} (named : Text.isBlank f.name = false)
      (unknown : ∀ op : ComparisonOperator, op.wireName ≠ f.operator) :
      Offence f (.unsupported "MatchSpecification.Operator" f.operator)
        (.unknownOperator f.name f.operator)
  | unknownEntity {f : TagFilter} {op : ComparisonOperator} {word : String}
      (named : Text.isBlank f.name = false) (known : op.wireName = f.operator)
      (present : f.entity = some word) (unknown : ∀ entity : Entity, entity.wireName ≠ word) :
      Offence f (.unsupported "MatchSpecification.Entity" word) (.unknownEntity f.name word)
  | missingValue {c : Comparison} (named : Text.isBlank c.tag = false)
      (binary : c.operator.isUnary = false) (absent : c.value = none) :
      Offence (.ofComparison c) (.missing "MatchSpecification.Value")
        (.missingValue c.tag c.operator.wireName)
  | unexpectedValue {c : Comparison} {value : String} (named : Text.isBlank c.tag = false)
      (unary : c.operator.isUnary = true) (present : c.value = some value) :
      Offence (.ofComparison c) (.superfluous "MatchSpecification.Value" c.operator.wireName)
        (.unexpectedValue c.tag c.operator.wireName)

theorem Offence.validate (h : f.Offence v w) : f.validate = .error v := by
  cases h with
  | blankName blank => simp [TagFilter.validate, Validation.nonBlank_eq, blank]
  | unknownOperator named unknown =>
    have hoperator : f.operator ∉ supportedOperators := by
      simpa [mem_supportedOperators] using unknown
    simp [TagFilter.validate, Validation.nonBlank_eq, Validation.supported_eq, named, hoperator]
  | @unknownEntity _ op word named known present unknown =>
    have hoperator : f.operator ∈ supportedOperators := mem_supportedOperators.mpr ⟨op, known⟩
    have hentity : word ∉ supportedEntities := by simpa [mem_supportedEntities] using unknown
    simp [TagFilter.validate, Validation.nonBlank_eq, Validation.supported_eq, named, hoperator,
      present, hentity]
  | missingValue named binary absent => rw [validate_of_named named, binary, absent]
  | unexpectedValue named unary present => rw [validate_of_named named, unary, present]

theorem Offence.toComparison (h : f.Offence v w) : f.toComparison = .error w := by
  cases h with
  | blankName blank => simp [TagFilter.toComparison, blank]
  | unknownOperator named unknown =>
    simp [TagFilter.toComparison, named, operator?_of_unknown unknown]
  | @unknownEntity _ op word named known present unknown =>
    have hoperator : f.operator? = .ok op := by
      rw [operator?, ← known, ComparisonOperator.ofWireName?_wireName]
    simp [TagFilter.toComparison, named, hoperator, entity?_of_unknown present unknown]
  | missingValue named binary absent => rw [toComparison_of_named named, binary, absent]
  | unexpectedValue named unary present => rw [toComparison_of_named named, unary, present]

theorem wellFormed_or_offence_ofComparison {c : Comparison} (named : Text.isBlank c.tag = false) :
    (ofComparison c).WellFormed ∨ ∃ v w, (ofComparison c).Offence v w := by
  cases hv : c.value with
  | none =>
    cases hu : c.operator.isUnary with
    | false => exact .inr ⟨_, _, .missingValue named hu hv⟩
    | true => exact .inl ⟨c, ⟨named, by simp [hv, hu]⟩, rfl⟩
  | some value =>
    cases hu : c.operator.isUnary with
    | false => exact .inl ⟨c, ⟨named, by simp [hv, hu]⟩, rfl⟩
    | true => exact .inr ⟨_, _, .unexpectedValue named hu hv⟩

theorem wellFormed_or_offence (f : TagFilter) : f.WellFormed ∨ ∃ v w, f.Offence v w := by
  cases hn : Text.isBlank f.name with
  | true => exact .inr ⟨_, _, .blankName hn⟩
  | false =>
    by_cases ho : ∃ op : ComparisonOperator, op.wireName = f.operator
    · obtain ⟨op, ho⟩ := ho
      by_cases he : ∃ entity : Option Entity, entity.map Entity.wireName = f.entity
      · obtain ⟨entity, he⟩ := he
        have hf : f = .ofComparison ⟨entity, f.name, op, f.value⟩ := by
          rw [ofComparison, ho, he]
        rw [hf]
        exact wellFormed_or_offence_ofComparison hn
      · obtain ⟨word, present⟩ : ∃ word, f.entity = some word := by
          apply Option.ne_none_iff_exists'.mp
          intro absent
          exact he ⟨none, absent.symm⟩
        refine .inr ⟨_, _, .unknownEntity hn ho present fun entity h => he ⟨some entity, ?_⟩⟩
        rw [present, ← h, Option.map_some]
    · exact .inr ⟨_, _, .unknownOperator hn fun op h => ho ⟨op, h⟩⟩

theorem toComparison_eq_ok_iff {c : Comparison} :
    f.toComparison = .ok c ↔ c.WellFormed ∧ f = .ofComparison c := by
  constructor
  · intro h
    obtain ⟨d, hd, rfl⟩ | ⟨v, w, ho⟩ := f.wellFormed_or_offence
    · rw [toComparison_ofComparison hd] at h
      cases h
      exact ⟨hd, rfl⟩
    · rw [ho.toComparison] at h
      cases h
  · rintro ⟨hc, rfl⟩
    exact toComparison_ofComparison hc

end TagFilter

namespace MatchSpecification

variable {l r : MatchSpecification} {op : LogicalOperator} {v : ValidationError} {w : MappingError}

def LeftmostOffence (m : MatchSpecification) (v : ValidationError) (w : MappingError) : Prop :=
  ∃ before f after, m.filters = before ++ f :: after ∧ (∀ g ∈ before, g.WellFormed) ∧ f.Offence v w

theorem LeftmostOffence.left (h : l.LeftmostOffence v w) :
    (logical l op r).LeftmostOffence v w := by
  obtain ⟨before, f, after, hf, hb, ho⟩ := h
  exact ⟨before, f, after ++ r.filters, by simp [filters, hf], hb, ho⟩

theorem LeftmostOffence.right (hl : l.WellFormed) (h : r.LeftmostOffence v w) :
    (logical l op r).LeftmostOffence v w := by
  obtain ⟨before, f, after, hf, hb, ho⟩ := h
  refine ⟨l.filters ++ before, f, after, by simp [filters, hf], ?_, ho⟩
  exact List.forall_mem_append.mpr ⟨wellFormed_iff_forall.mp hl, hb⟩

theorem wellFormed_or_leftmostOffence (m : MatchSpecification) :
    m.WellFormed ∨
      ∃ v w, m.LeftmostOffence v w ∧ m.validate = .error v ∧ m.toExpression = .error w := by
  induction m with
  | tagFilter f =>
    obtain hf | ⟨v, w, ho⟩ := f.wellFormed_or_offence
    · exact .inl hf
    · refine .inr ⟨v, w, ⟨[], f, [], rfl, nofun, ho⟩, ho.validate, ?_⟩
      rw [toExpression, ho.toComparison, Result.error_bind]
  | logical l op r ihl ihr =>
    obtain hl | ⟨v, w, ho, hv, hw⟩ := ihl
    · obtain hr | ⟨v, w, ho, hv, hw⟩ := ihr
      · exact .inl ⟨hl, hr⟩
      · obtain ⟨e, he⟩ := hl.toExpression
        refine .inr ⟨v, w, ho.right hl, ?_, ?_⟩
        · rw [MatchSpecification.validate, hl.validate, hv, Result.ok_bind]
        · rw [MatchSpecification.toExpression, he, hw, Result.ok_bind, Result.error_bind]
    · refine .inr ⟨v, w, ho.left, ?_, ?_⟩
      · rw [MatchSpecification.validate, hv, Result.error_bind]
      · rw [MatchSpecification.toExpression, hw, Result.error_bind]

theorem validate_eq_ok_iff {m : MatchSpecification} : m.validate = .ok () ↔ m.WellFormed := by
  refine ⟨fun h => ?_, WellFormed.validate⟩
  obtain hm | ⟨v, w, -, hv, -⟩ := m.wellFormed_or_leftmostOffence
  · exact hm
  · rw [hv] at h
    cases h

theorem exists_toExpression_iff {m : MatchSpecification} :
    (∃ e, m.toExpression = .ok e) ↔ m.WellFormed := by
  refine ⟨?_, WellFormed.toExpression⟩
  rintro ⟨e, he⟩
  obtain hm | ⟨v, w, -, -, hw⟩ := m.wellFormed_or_leftmostOffence
  · exact hm
  · rw [hw] at he
    cases he

theorem validate_agrees_toExpression (m : MatchSpecification) :
    (m.validate = .ok () ↔ ∃ e, m.toExpression = .ok e) ∧
    (∀ v, m.validate = .error v → ∃ w, m.toExpression = .error w ∧ m.LeftmostOffence v w) ∧
    ∀ (c : ApplicationConfig) (s : ResourceState), c.matchSpecification = m →
      c.validate = .ok () →
      ∃ stored, ResourceKind.applicationConfig.updateState s (.applicationConfig c) = .ok stored := by
  refine ⟨validate_eq_ok_iff.trans exists_toExpression_iff.symm, ?_, ?_⟩
  · intro v h
    obtain hm | ⟨v', w, ho, hv, hw⟩ := m.wellFormed_or_leftmostOffence
    · rw [hm.validate] at h
      cases h
    · rw [hv] at h
      cases h
      exact ⟨w, hw, ho⟩
  · rintro c s rfl hc
    have hm := validate_eq_ok_iff.mp (c.validate_matchSpecification hc)
    obtain ⟨e, he⟩ := hm.toExpression
    obtain ⟨stored, hs⟩ := c.store_eq_ok he s
    exact ⟨stored, ResourceKind.updateState_eq_ok_iff.mpr hs⟩

def threeFilters : MatchSpecification :=
  .logical (.tagFilter ⟨"zone", "EQUALS", some "SOURCE", some "eu"⟩) .conjunction
    (.logical (.tagFilter ⟨"tier", "IS_BLANK", some "CALLER", some "web"⟩) .disjunction
      (.tagFilter ⟨" ", "LIKE", none, none⟩))

def emptyZone : MatchSpecification := .tagFilter ⟨"zone", "IS_EMPTY", none, none⟩

theorem agreement_threeFilters :
    threeFilters.validate = .error (.unsupported "MatchSpecification.Entity" "CALLER") ∧
    (∃ w, threeFilters.toExpression = .error w ∧
      threeFilters.LeftmostOffence (.unsupported "MatchSpecification.Entity" "CALLER") w) ∧
    (ApplicationConfig.shopConfig emptyZone).validate = .ok () ∧
    ∃ stored, ResourceKind.applicationConfig.updateState .empty
      (.applicationConfig (.shopConfig emptyZone)) = .ok stored := by
  have hv : threeFilters.validate = .error (.unsupported "MatchSpecification.Entity" "CALLER") := rfl
  have hc : (ApplicationConfig.shopConfig emptyZone).validate = .ok () := rfl
  exact ⟨hv, (validate_agrees_toExpression threeFilters).2.1 _ hv, hc,
    (validate_agrees_toExpression emptyZone).2.2 (.shopConfig emptyZone) .empty rfl hc⟩

end MatchSpecification

end Monitoring
