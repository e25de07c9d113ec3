import Monitoring.Proofs.Result
import Monitoring.Resource.ApplicationMapping

namespace Monitoring.ApplicationConfig

variable {c : ApplicationConfig} {s : ResourceState} {text : String} {m : MatchSpecification}

theorem specificationOf_eq_ok_iff :
    specificationOf text = .ok m ↔
      ∃ e, Expression.parse text = .ok e ∧ e.toSpecification = .ok m := by
  simp only [specificationOf, Result.bind_eq_ok_iff, Result.mapError_eq_ok_iff]

theorem specificationOf_of_ofState {format : NameFormat} (h : ofState s format = .ok c) :
    ∃ text, s.requiredString "match_specification" = .ok text ∧
      specificationOf text = .ok c.matchSpecification := by
  obtain ⟨label, _, h⟩ := Result.bind_eq_ok_iff.mp h
  obtain ⟨text, ht, h⟩ := Result.bind_eq_ok_iff.mp h
  obtain ⟨specification, hs, h⟩ := Result.bind_eq_ok_iff.mp h
  obtain ⟨scope, _, h⟩ := Result.bind_eq_ok_iff.mp h
  obtain ⟨boundaryScope, _, h⟩ := Result.bind_eq_ok_iff.mp h
  cases h
  exact ⟨text, Result.mapError_eq_ok_iff.mp ht, hs⟩

theorem validate_matchSpecification (h : c.validate = .ok ()) :
    c.matchSpecification.validate = .ok () := by
  simp only [validate, Result.then_eq_ok_iff] at h
  obtain ⟨-, -, -, hm, -⟩ := h
  exact hm

theorem store_eq_ok {e : Expression} (he : c.matchSpecification.toExpression = .ok e)
    (s : ResourceState) : ∃ stored, c.store s = (stored, .ok ()) := by
  rw [store, he]
  exact ⟨_, rfl⟩

def shopState (text : String) : ResourceState :=
  ((ResourceState.empty.setId "shop").set "label" (.string "shop")).set "match_specification"
    (.string text)

def shopConfig (m : MatchSpecification) : ApplicationConfig :=
  ⟨"shop", "shop", m, defaultScope, defaultBoundaryScope⟩

theorem ofState_shopState (h : specificationOf text = .ok m) :
    ofState (shopState text) ⟨"", ""⟩ = .ok (shopConfig m) := by
  have hl : NameFormat.fullName ⟨"", ""⟩ (shopState text) "label" "full_label" = .ok "shop" := rfl
  have ht : (shopState text).requiredString "match_specification" = .ok text := rfl
  rw [ofState, hl, ht]
  simp only [Result.mapError_ok, Result.ok_bind, h]
  rfl

theorem validate_shopConfig (h : m.validate = .ok ()) : (shopConfig m).validate = .ok () := by
  simp only [validate, shopConfig, h]
  rfl

end Monitoring.ApplicationConfig
