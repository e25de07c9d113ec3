import Monitoring.Proofs.Expression.RoundTrip
import Monitoring.Proofs.MatchSpecification.Agreement
import Monitoring.Proofs.MatchSpecification.Negations

namespace Monitoring

namespace ApplicationConfig

theorem wellFormed_of_ofState {s : ResourceState} {format : NameFormat} {c : ApplicationConfig}
    (h : ofState s format = .ok c) : c.matchSpecification.WellFormed := by
  obtain ⟨text, -, h⟩ := specificationOf_of_ofState h
  obtain ⟨e, hp, hm⟩ := specificationOf_eq_ok_iff.mp h
  exact (Expression.wellFormed_of_parse hp).toSpecification hm

end ApplicationConfig

namespace MatchSpecification

theorem parsed_and_mapped_valid :
    (∀ text e, Expression.parse text = .ok e → ∀ c ∈ e.comparisons, c.WellFormed) ∧
    (∀ (e : Expression) m, e.toSpecification = .ok m →
      (m.validate = .ok () ↔ ∀ c ∈ e.comparisons, c.WellFormed)) ∧
    ∀ s format c, ApplicationConfig.ofState s format = .ok c →
      c.matchSpecification.validate = .ok () := by
  refine ⟨fun text e hp => ?_, fun e m hm => ?_, fun s format c h => ?_⟩
  · exact Expression.wellFormed_iff_forall.mp (Expression.wellFormed_of_parse hp)
  · have h := Expression.toSpecification_eq_ok_iff.mp hm
    rw [validate_eq_ok_iff, h.wellFormed_iff, Expression.wellFormed_iff_forall]
  · exact (ApplicationConfig.wellFormed_of_ofState h).validate

open Expression (failingCalls failingCallsSpecification)

theorem valid_failingCalls :
    Expression.parse failingCalls.render = .ok failingCalls ∧
    failingCalls.toSpecification = .ok failingCallsSpecification ∧
    failingCallsSpecification.validate = .ok () ∧
    ApplicationConfig.ofState (ApplicationConfig.shopState failingCalls.render) ⟨"", ""⟩ =
      .ok (.shopConfig failingCallsSpecification) ∧
    (ApplicationConfig.shopConfig failingCallsSpecification).matchSpecification.validate =
      .ok () := by
  have hw : failingCalls.WellFormed := by decide
  have hp := Expression.parse_render_of_height_le hw (by decide)
  have hm := Expression.toSpecification_failingCalls
  have hs := ApplicationConfig.ofState_shopState
    (ApplicationConfig.specificationOf_eq_ok_iff.mpr ⟨_, hp, hm⟩)
  obtain ⟨hparsed, hmapped, hstate⟩ := parsed_and_mapped_valid
  exact ⟨hp, hm, (hmapped _ _ hm).mpr (hparsed _ _ hp), hs, hstate _ _ _ hs⟩

end MatchSpecification

end Monitoring
