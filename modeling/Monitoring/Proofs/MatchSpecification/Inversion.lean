import Monitoring.Proofs.MatchSpecification.Agreement
import Monitoring.Proofs.MatchSpecification.Negations

namespace Monitoring.MatchSpecification

variable {m : MatchSpecification} {e : Expression}

theorem toExpression_eq_ok_iff :
    m.toExpression = .ok e ↔ e.WellFormed ∧ e.NegationFree ∧ e.MapsTo m := by
  constructor
  · intro h
    induction m generalizing e with
    | tagFilter f =>
      rw [toExpression, Result.bind_eq_ok_iff] at h
      obtain ⟨c, hc, h⟩ := h
      obtain ⟨hw, rfl⟩ := TagFilter.toComparison_eq_ok_iff.mp hc
      cases h
      exact ⟨hw, trivial, .chain 0 c⟩
    | logical l op r ihl ihr =>
      rw [toExpression, Result.bind_eq_ok_iff] at h
      obtain ⟨el, hl, h⟩ := h
      obtain ⟨er, hr, h⟩ := Result.bind_eq_ok_iff.mp h
      cases h
      obtain ⟨hwl, hfl, hml⟩ := ihl hl
      obtain ⟨hwr, hfr, hmr⟩ := ihr hr
      exact ⟨⟨hwl, hwr⟩, ⟨hfl, hfr⟩, .logical hml hmr⟩
  · rintro ⟨hw, hf, hm⟩
    induction hm with
    | chain k c =>
      cases k with
      | zero =>
        rw [Comparison.under_zero, toExpression, TagFilter.toComparison_ofComparison hw]
        rfl
      | succ k => cases hf
    | logical _ _ ihl ihr => rw [toExpression, ihl hw.1 hf.1, ihr hw.2 hf.2]; rfl

theorem toExpression_toSpecification_inverse :
    (∀ (m : MatchSpecification) e, m.toExpression = .ok e →
      e.NegationFree ∧ e.toSpecification = .ok m) ∧
    ∀ (e : Expression) m, e.WellFormed → e.toSpecification = .ok m →
      m.toExpression = .ok e.absorbed ∧ (e.NegationFree → e.absorbed = e) := by
  constructor
  · intro m e h
    obtain ⟨-, hf, hm⟩ := toExpression_eq_ok_iff.mp h
    exact ⟨hf, Expression.toSpecification_eq_ok_iff.mpr hm⟩
  · intro e m hw h
    have hm := Expression.toSpecification_eq_ok_iff.mp h
    obtain ⟨hf, ha⟩ := hm.absorbed
    have hwa := ha.wellFormed_iff.mp (hm.wellFormed_iff.mpr hw)
    exact ⟨toExpression_eq_ok_iff.mpr ⟨hwa, hf, ha⟩, fun hf => hf.absorbed_eq⟩

theorem inverse_failingCalls :
    Expression.failingCalls.WellFormed ∧
    Expression.failingCalls.toSpecification = .ok Expression.failingCallsSpecification ∧
    Expression.failingCallsSpecification.toExpression = .ok Expression.failingCalls.absorbed ∧
    Expression.failingCalls.absorbed.NegationFree ∧
    Expression.failingCalls.absorbed.toSpecification = .ok Expression.failingCallsSpecification := by
  have hw : Expression.failingCalls.WellFormed := by decide
  have hm := Expression.toSpecification_failingCalls
  obtain ⟨hback, -⟩ := toExpression_toSpecification_inverse.2 _ _ hw hm
  exact ⟨hw, hm, hback, toExpression_toSpecification_inverse.1 _ _ hback⟩

end Monitoring.MatchSpecification
