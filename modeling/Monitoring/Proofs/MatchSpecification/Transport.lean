import Monitoring.CommandLine.Run
import Monitoring.Proofs.Expression.RoundTrip
import Monitoring.Proofs.MatchSpecification.Negations
import Monitoring.Proofs.Remote.Echo
import Monitoring.Proofs.Resource.ApplicationMapping
import Monitoring.Resource.Lifecycle

/-!
Specifications on their way to a reader: another command, or the answer to the request that stores
them. Trees of expressions may be higher than texts of JSON may nest.
-/

namespace Monitoring

open Json (maxNesting)

namespace CommandLine.Host

variable {n : Type → Type} [Monad n]

theorem mk_pure_ok {α : Type} (a : α) : (ExceptT.mk (pure (.ok a)) : Action n α) = pure a := rfl

variable [LawfulMonad n]
variable {h : Host n} {text : String} {m : MatchSpecification} {e : Expression}

theorem attempt_pure_ok {α : Type} {service : n (Except String α)} {a : α}
    (hs : service = pure (.ok a)) (error : String → CommandError) :
    attempt service error = pure a := by
  rw [attempt, hs, pure_bind]
  rfl

theorem execute_toSpecification (directory : String) (hp : Expression.parse text = .ok e)
    (hm : e.toSpecification = .ok m) :
    h.execute directory (.toSpecification text .json) =
      pure (OutputFormat.json.print m.toJson) := by
  simp only [execute, hp, Result.mapError_ok, mk_pure_ok, pure_bind, hm]

theorem readSpecification_of_parse? (hi : h.input = pure (.ok text))
    (hs : MatchSpecification.parse? text = some m) (hv : m.validate = .ok ())
    (he : m.toExpression = .ok e) : h.readSpecification = pure e := by
  simp only [readSpecification, attempt_pure_ok hi, pure_bind, hs, hv, he, Result.mapError_ok,
    mk_pure_ok]

theorem readSpecification_of_malformed (hi : h.input = pure (.ok text))
    (hs : MatchSpecification.parse? text = none) :
    h.readSpecification = throw .malformedSpecification := by
  simp only [readSpecification, attempt_pure_ok hi, pure_bind, hs]

end CommandLine.Host

theorem ResourceKind.update_of_echoes {client : Client} (he : client.Echoes) {s : ResourceState}
    {format : NameFormat} {c : ApplicationConfig} {e : Expression}
    (hs : ApplicationConfig.ofState s format = .ok c) (hv : c.validate = .ok ())
    (hm : c.matchSpecification.toExpression = .ok e) :
    (applicationConfig.update client format s).result =
      if c.matchSpecification.depth + 1 ≤ maxNesting then .ok ()
      else .error (.remote (.malformed (Storable.path ApplicationConfig))) := by
  have hobject : applicationConfig.toObject s format = .ok (.applicationConfig c) := by
    rw [toObject, hs]
    rfl
  have hupsert := c.upsert_of_echoes he hv
  obtain ⟨stored, hstored⟩ := c.store_eq_ok hm s
  simp only [update, hobject, StoredObject.upsert, StoredObject.mapExchange, hupsert]
  by_cases h : c.matchSpecification.depth + 1 ≤ maxNesting
  · simp only [if_pos h, Except.map, accept, store, hstored]
  · simp only [if_neg h, Except.map]

namespace MatchSpecification

theorem transport_of_depth {n : Type → Type} [Monad n] [LawfulMonad n] {text : String}
    {e : Expression} {m : MatchSpecification} (hp : Expression.parse text = .ok e)
    (hm : e.toSpecification = .ok m) :
    (∀ y : Json.Layout, parse? (m.toJson.text y) = if m.depth ≤ maxNesting then some m else none) ∧
    (∃ output f, m.toExpression = .ok f ∧
      (∀ (h : CommandLine.Host n) directory,
        h.execute directory (.toSpecification text .json) = pure output) ∧
      ∀ (h : CommandLine.Host n) directory, h.input = pure (.ok output) →
        h.execute directory .ofSpecification =
          if m.depth ≤ maxNesting then pure (f.render ++ "\n") else throw .malformedSpecification) ∧
    ∀ (client : Client) s format c, client.Echoes → ApplicationConfig.ofState s format = .ok c →
      c.validate = .ok () → c.matchSpecification = m →
      (ResourceKind.applicationConfig.update client format s).result =
        if m.depth + 1 ≤ maxNesting then .ok ()
        else .error (.remote (.malformed (Storable.path ApplicationConfig))) := by
  have hw := (Expression.wellFormed_of_parse hp).toSpecification hm
  obtain ⟨f, hf⟩ := hw.toExpression
  refine ⟨fun y => ?_, ⟨CommandLine.OutputFormat.json.print m.toJson, f, hf, ?_, ?_⟩, ?_⟩
  · have ht := m.parse?_text_append y "" nofun
    rwa [String.append_empty] at ht
  · intro h directory
    exact CommandLine.Host.execute_toSpecification directory hp hm
  · intro h directory hi
    have ht := m.parse?_text_append .indented "\n" (by simp [Json.isSpace])
    by_cases hd : m.depth ≤ maxNesting
    · rw [if_pos hd] at ht ⊢
      rw [CommandLine.Host.execute,
        CommandLine.Host.readSpecification_of_parse? hi ht hw.validate hf, pure_bind]
    · rw [if_neg hd] at ht ⊢
      rw [CommandLine.Host.execute, CommandLine.Host.readSpecification_of_malformed hi ht]
      apply ExceptT.ext
      simp
  · intro client s format c he hs hv hc
    subst hc
    exact ResourceKind.update_of_echoes he hs hv hf

def leftChain : Nat → Expression
  | 0 => .comparison ⟨none, "zone", .isEmpty, none⟩
  | k + 1 => .logical .conjunction (leftChain k) (.comparison ⟨none, "zone", .isEmpty, none⟩)

def chainSpecification : Nat → MatchSpecification
  | 0 => .tagFilter ⟨"zone", "IS_EMPTY", none, none⟩
  | k + 1 =>
    .logical (chainSpecification k) .conjunction (.tagFilter ⟨"zone", "IS_EMPTY", none, none⟩)

theorem toSpecification_leftChain (k : Nat) :
    (leftChain k).toSpecification = .ok (chainSpecification k) := by
  induction k with
  | zero => rfl
  | succ k ih => rw [leftChain, Expression.toSpecification, ih]; rfl

def chainConfig (k : Nat) : ApplicationConfig :=
  ⟨"shop", "shop", chainSpecification k, ApplicationConfig.defaultScope,
    ApplicationConfig.defaultBoundaryScope⟩

def chainState (k : Nat) : ResourceState :=
  ((ResourceState.empty.setId "shop").set "label" (.string "shop")).set "match_specification"
    (.string (leftChain k).render)

theorem ofState_chainState {k : Nat}
    (hp : Expression.parse (leftChain k).render = .ok (leftChain k)) :
    ApplicationConfig.ofState (chainState k) ⟨"", ""⟩ = .ok (chainConfig k) :=
  ApplicationConfig.ofState_shopState
    (ApplicationConfig.specificationOf_eq_ok_iff.mpr ⟨leftChain k, hp, toSpecification_leftChain k⟩)

theorem validate_chainConfig {k : Nat} (h : (chainSpecification k).validate = .ok ()) :
    (chainConfig k).validate = .ok () :=
  ApplicationConfig.validate_shopConfig h

theorem transport_leftChain :
    Expression.parse (leftChain 127).render = .ok (leftChain 127) ∧
    (leftChain 127).toSpecification = .ok (chainSpecification 127) ∧
    parse? (chainSpecification 127).toJson.compact = none ∧
    (ResourceKind.applicationConfig.update .echo ⟨"", ""⟩ (chainState 127)).result =
      .error (.remote (.malformed (Storable.path ApplicationConfig))) := by
  have hw : (leftChain 127).WellFormed := by decide +kernel
  have hl : (leftChain 127).leftGrouped = leftChain 127 := by decide +kernel
  have hh : (leftChain 127).leftGrouped.height ≤ ParseErrorKind.maxNesting := by decide +kernel
  have hd : ¬(chainSpecification 127).depth ≤ maxNesting := by decide +kernel
  have hp := Expression.parse_render_of_height_le hw hh
  have hm := toSpecification_leftChain 127
  rw [hl] at hp
  obtain ⟨htext, -, hupdate⟩ := transport_of_depth (n := Id) hp hm
  have hparse := htext .compact
  have hv := validate_chainConfig (hw.toSpecification hm).validate
  have hresult := hupdate .echo (chainState 127) ⟨"", ""⟩ (chainConfig 127) Client.echoes_echo
    (ofState_chainState hp) hv rfl
  rw [if_neg hd] at hparse
  rw [if_neg (by omega)] at hresult
  exact ⟨hp, hm, hparse, hresult⟩

end MatchSpecification

end Monitoring
