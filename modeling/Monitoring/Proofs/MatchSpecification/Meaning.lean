import Monitoring.Proofs.Expression.Grouping
import Monitoring.Proofs.MatchSpecification.Negations

namespace Monitoring

namespace Comparison

def Complementary (v : Comparison → Bool) : Prop := ∀ c : Comparison, v c.negated = !v c

def subject (c : Comparison) : Option Entity × String × Option String := (c.entity, c.tag, c.value)

theorem subject_under (k : Nat) (c : Comparison) : (c.under k).subject = c.subject := by
  induction k with
  | zero => rfl
  | succ k ih => rw [under_succ, ← ih]; rfl

end Comparison

namespace Expression

theorem comparisons_negations (k : Nat) (e : Expression) :
    (negations k e).comparisons = e.comparisons := by
  induction k with
  | zero => rfl
  | succ k ih => exact ih

theorem truth_negations {v : Comparison → Bool} (hv : Comparison.Complementary v) (k : Nat)
    (c : Comparison) : (negations k (comparison c)).truth v = v (c.under k) := by
  induction k with
  | zero => rfl
  | succ k ih => rw [negations, truth, ih, Comparison.under_succ, hv]

end Expression

namespace MatchSpecification

def truth? (v : Comparison → Bool) : MatchSpecification → Option Bool
  | tagFilter f => f.comparison?.map v
  | logical l .conjunction r => do return (← l.truth? v) && (← r.truth? v)
  | logical l .disjunction r => do return (← l.truth? v) || (← r.truth? v)

def subjects (m : MatchSpecification) : List (Option (Option Entity × String × Option String)) :=
  m.filters.map fun f => f.comparison?.map Comparison.subject

end MatchSpecification

namespace Expression

variable {e : Expression} {m : MatchSpecification}

theorem MapsTo.truth? (h : e.MapsTo m) {v : Comparison → Bool} (hv : Comparison.Complementary v) :
    m.truth? v = some (e.truth v) := by
  induction h with
  | chain k c =>
    rw [MatchSpecification.truth?, TagFilter.comparison?_ofComparison, truth_negations hv]
    rfl
  | @logical op _ _ _ _ _ _ ihl ihr =>
    cases op with
    | conjunction => rw [MatchSpecification.truth?, ihl, ihr]; rfl
    | disjunction => rw [MatchSpecification.truth?, ihl, ihr]; rfl

theorem MapsTo.subjects (h : e.MapsTo m) :
    m.subjects = e.comparisons.map fun c => some c.subject := by
  induction h with
  | chain k c =>
    rw [comparisons_negations, MatchSpecification.subjects, MatchSpecification.filters,
      List.map_singleton, TagFilter.comparison?_ofComparison, Option.map_some,
      Comparison.subject_under]
    rfl
  | logical _ _ ihl ihr =>
    rw [MatchSpecification.subjects, MatchSpecification.filters, List.map_append, comparisons,
      List.map_append, ← ihl, ← ihr]
    rfl

theorem truth_toSpecification (hm : e.toSpecification = .ok m) :
    (∀ v, Comparison.Complementary v → m.truth? v = some (e.truth v)) ∧
      m.subjects = e.comparisons.map fun c => some c.subject := by
  have h := toSpecification_eq_ok_iff.mp hm
  exact ⟨fun v hv => h.truth? hv, h.subjects⟩

def affirmative (c : Comparison) : Bool :=
  c.operator ∈ [.equals, .contains, .startsWith, .endsWith, .greaterThan, .lessThan, .isEmpty, .isBlank]

theorem truth_failingCalls :
    failingCalls.toSpecification = .ok failingCallsSpecification ∧
    Comparison.Complementary affirmative ∧
    failingCallsSpecification.truth? affirmative = some (failingCalls.truth affirmative) ∧
    failingCallsSpecification.subjects = failingCalls.comparisons.map fun c => some c.subject := by
  have hv : Comparison.Complementary affirmative := by
    intro c
    obtain ⟨entity, tag, operator, value⟩ := c
    cases operator <;> rfl
  obtain ⟨htruth, hsubjects⟩ := truth_toSpecification toSpecification_failingCalls
  exact ⟨toSpecification_failingCalls, hv, htruth affirmative hv, hsubjects⟩

end Expression

end Monitoring
