import Monitoring.MatchSpecification.Mapping
import Monitoring.Proofs.Expression.Grammar
import Monitoring.Proofs.Result

namespace Monitoring

theorem ComparisonOperator.mem_all (op : ComparisonOperator) : op ∈ all := by
  cases op <;> decide

theorem Entity.mem_all (entity : Entity) : entity ∈ all := by
  cases entity <;> decide

theorem ComparisonOperator.isUnary_negated (op : ComparisonOperator) :
    op.negated.isUnary = op.isUnary := by
  cases op <;> rfl

theorem ComparisonOperator.ofWireName?_wireName (op : ComparisonOperator) :
    ofWireName? op.wireName = some op := by
  cases op <;> rfl

theorem Entity.ofWireName?_wireName (entity : Entity) :
    ofWireName? entity.wireName = some entity := by
  cases entity <;> rfl

def Comparison.negated (c : Comparison) : Comparison := { c with operator := c.operator.negated }

namespace TagFilter

theorem operator?_ofComparison (c : Comparison) : (ofComparison c).operator? = .ok c.operator := by
  simp only [operator?, ofComparison, ComparisonOperator.ofWireName?_wireName]

theorem entity?_ofComparison (c : Comparison) : (ofComparison c).entity? = .ok c.entity := by
  obtain ⟨entity, tag, operator, value⟩ := c
  cases entity with
  | none => rfl
  | some entity => simp only [entity?, ofComparison, Option.map_some, Entity.ofWireName?_wireName]

def comparison? (f : TagFilter) : Option Comparison := do
  let operator ← ComparisonOperator.ofWireName? f.operator
  let entity ← f.entity.mapM Entity.ofWireName?
  return ⟨entity, f.name, operator, f.value⟩

theorem comparison?_ofComparison (c : Comparison) : (ofComparison c).comparison? = some c := by
  obtain ⟨entity, tag, operator, value⟩ := c
  simp only [comparison?, ofComparison, ComparisonOperator.ofWireName?_wireName]
  cases entity with
  | none => rfl
  | some entity => simp [Entity.ofWireName?_wireName]

theorem ofComparison_inj {c d : Comparison} : ofComparison c = ofComparison d ↔ c = d := by
  refine ⟨fun h => ?_, congrArg ofComparison⟩
  have hd := comparison?_ofComparison d
  rw [← h, comparison?_ofComparison] at hd
  exact Option.some.inj hd

theorem negate_ofComparison (c : Comparison) :
    (ofComparison c).negate = .ok (ofComparison c.negated) := by
  rw [negate, operator?_ofComparison]
  rfl

theorem operator?_of_unknown {f : TagFilter}
    (unknown : ∀ op : ComparisonOperator, op.wireName ≠ f.operator) :
    f.operator? = .error (.unknownOperator f.name f.operator) := by
  have hnone : ComparisonOperator.ofWireName? f.operator = none :=
    List.find?_eq_none.mpr (by simpa using fun op _ => unknown op)
  simp only [operator?, hnone]

theorem entity?_of_unknown {f : TagFilter} {word : String} (present : f.entity = some word)
    (unknown : ∀ entity : Entity, entity.wireName ≠ word) :
    f.entity? = .error (.unknownEntity f.name word) := by
  have hnone : Entity.ofWireName? word = none :=
    List.find?_eq_none.mpr (by simpa using fun entity _ => unknown entity)
  simp only [entity?, present, hnone]

theorem mem_supportedOperators {word : String} :
    word ∈ supportedOperators ↔ ∃ op : ComparisonOperator, op.wireName = word := by
  have htable : supportedOperators = ComparisonOperator.all.map ComparisonOperator.wireName := rfl
  simp only [htable, List.mem_map, ComparisonOperator.mem_all, true_and]

theorem mem_supportedEntities {word : String} :
    word ∈ supportedEntities ↔ ∃ entity : Entity, entity.wireName = word := by
  have htable : supportedEntities = Entity.all.map Entity.wireName := rfl
  simp only [htable, List.mem_map, Entity.mem_all, true_and]

theorem contains_unaryOperators (op : ComparisonOperator) :
    unaryOperators.contains op.wireName = op.isUnary := by
  cases op <;> rfl

theorem toComparison_of_named {c : Comparison} (named : Text.isBlank c.tag = false) :
    (ofComparison c).toComparison =
      match c.value, c.operator.isUnary with
      | none, false => .error (.missingValue c.tag c.operator.wireName)
      | some _, true => .error (.unexpectedValue c.tag c.operator.wireName)
      | _, _ => .ok c := by
  have hname : Text.isBlank (ofComparison c).name = false := named
  simp only [toComparison, hname, operator?_ofComparison, entity?_ofComparison, Result.ok_bind]
  rfl

theorem validate_of_named {c : Comparison} (named : Text.isBlank c.tag = false) :
    (ofComparison c).validate =
      match c.value, c.operator.isUnary with
      | none, false => .error (.missing "MatchSpecification.Value")
      | some _, true => .error (.superfluous "MatchSpecification.Value" c.operator.wireName)
      | _, _ => .ok () := by
  have hoperator : c.operator.wireName ∈ supportedOperators := mem_supportedOperators.mpr ⟨_, rfl⟩
  have hentity : ∀ e : Entity, e.wireName ∈ supportedEntities :=
    fun e => mem_supportedEntities.mpr ⟨e, rfl⟩
  simp only [validate, ofComparison, Validation.nonBlank_eq, Validation.supported_eq, named,
    hoperator, contains_unaryOperators]
  cases c.entity with
  | none => rfl
  | some e => simp only [Option.map_some, hentity]; rfl

theorem toComparison_ofComparison {c : Comparison} (h : c.WellFormed) :
    (ofComparison c).toComparison = .ok c := by
  obtain ⟨named, hvalue⟩ := h
  rw [toComparison_of_named named]
  split <;> simp_all

theorem validate_ofComparison {c : Comparison} (h : c.WellFormed) :
    (ofComparison c).validate = .ok () := by
  obtain ⟨named, hvalue⟩ := h
  rw [validate_of_named named]
  split <;> simp_all

def WellFormed (f : TagFilter) : Prop := ∃ c : Comparison, c.WellFormed ∧ f = .ofComparison c

end TagFilter

namespace MatchSpecification

def filters : MatchSpecification → List TagFilter
  | tagFilter f => [f]
  | logical l _ r => l.filters ++ r.filters

def WellFormed : MatchSpecification → Prop
  | tagFilter f => f.WellFormed
  | logical l _ r => l.WellFormed ∧ r.WellFormed

theorem wellFormed_iff_forall {m : MatchSpecification} :
    m.WellFormed ↔ ∀ f ∈ m.filters, f.WellFormed := by
  induction m with
  | tagFilter f =>
    rw [filters, List.forall_mem_singleton]
    rfl
  | logical l op r ihl ihr =>
    rw [filters, List.forall_mem_append, ← ihl, ← ihr]
    rfl

theorem WellFormed.validate {m : MatchSpecification} (h : m.WellFormed) : m.validate = .ok () := by
  induction m with
  | tagFilter f =>
    obtain ⟨c, hc, rfl⟩ := h
    exact TagFilter.validate_ofComparison hc
  | logical l op r ihl ihr =>
    rw [MatchSpecification.validate, ihl h.1, ihr h.2]
    rfl

theorem WellFormed.toExpression {m : MatchSpecification} (h : m.WellFormed) :
    ∃ e, m.toExpression = .ok e := by
  induction m with
  | tagFilter f =>
    obtain ⟨c, hc, rfl⟩ := h
    rw [MatchSpecification.toExpression, TagFilter.toComparison_ofComparison hc]
    exact ⟨_, rfl⟩
  | logical l op r ihl ihr =>
    obtain ⟨el, hl⟩ := ihl h.1
    obtain ⟨er, hr⟩ := ihr h.2
    rw [MatchSpecification.toExpression, hl, hr]
    exact ⟨_, rfl⟩

end MatchSpecification

end Monitoring
