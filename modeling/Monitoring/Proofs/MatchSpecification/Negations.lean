import Monitoring.Proofs.MatchSpecification.Mapping

namespace Monitoring

namespace Comparison

theorem negated_negated (c : Comparison) : c.negated.negated = c := by
  obtain ⟨entity, tag, operator, value⟩ := c
  cases operator <;> rfl

theorem wellFormed_negated {c : Comparison} : c.negated.WellFormed ↔ c.WellFormed := by
  rw [WellFormed, WellFormed, negated, ComparisonOperator.isUnary_negated]

def under (k : Nat) (c : Comparison) : Comparison := if k % 2 = 1 then c.negated else c

theorem under_zero (c : Comparison) : c.under 0 = c := rfl

theorem under_succ (k : Nat) (c : Comparison) : c.under (k + 1) = (c.under k).negated := by
  by_cases odd : k % 2 = 1
  · rw [under, under, if_pos odd, if_neg (by omega), negated_negated]
  · rw [under, under, if_neg odd, if_pos (by omega)]

theorem wellFormed_under {k : Nat} {c : Comparison} : (c.under k).WellFormed ↔ c.WellFormed := by
  induction k with
  | zero => rfl
  | succ k ih => rw [under_succ, wellFormed_negated, ih]

end Comparison

namespace Expression

def negations : Nat → Expression → Expression
  | 0, e => e
  | k + 1, e => negation (negations k e)

def NegationFree : Expression → Prop
  | logical _ l r => l.NegationFree ∧ r.NegationFree
  | negation _ => False
  | comparison _ => True

def absorb : Expression → Nat → Expression
  | logical op l r, k => negations k (logical op (l.absorb 0) (r.absorb 0))
  | negation e, k => e.absorb (k + 1)
  | comparison c, k => comparison (c.under k)

def absorbed (e : Expression) : Expression := e.absorb 0

/-- The specification that an expression has: every chain of NOTs over a comparison is one tag
filter of it. A chain over AND or OR has none. -/
inductive MapsTo : Expression → MatchSpecification → Prop
  | chain (k : Nat) (c : Comparison) :
      MapsTo (negations k (comparison c)) (.tagFilter (.ofComparison (c.under k)))
  | logical {op : LogicalOperator} {l r : Expression} {ml mr : MatchSpecification}
      (left : MapsTo l ml) (right : MapsTo r mr) : MapsTo (logical op l r) (.logical ml op mr)

theorem toSpecification_negations (k : Nat) (c : Comparison) :
    (negations k (comparison c)).toSpecification =
      .ok (.tagFilter (.ofComparison (c.under k))) := by
  induction k with
  | zero => rfl
  | succ k ih =>
    simp only [negations, toSpecification, ih, Result.ok_bind, TagFilter.negate_ofComparison,
      Comparison.under_succ]
    rfl

theorem toSpecification_eq_ok_iff {e : Expression} {m : MatchSpecification} :
    e.toSpecification = .ok m ↔ e.MapsTo m := by
  constructor
  · intro h
    induction e generalizing m with
    | logical op l r ihl ihr =>
      rw [toSpecification, Result.bind_eq_ok_iff] at h
      obtain ⟨ml, hl, h⟩ := h
      obtain ⟨mr, hr, h⟩ := Result.bind_eq_ok_iff.mp h
      cases h
      exact .logical (ihl hl) (ihr hr)
    | negation e ih =>
      rw [toSpecification, Result.bind_eq_ok_iff] at h
      obtain ⟨me, he, h⟩ := h
      cases ih he with
      | chain k c =>
        simp only [TagFilter.negate_ofComparison, ← Comparison.under_succ] at h
        cases h
        exact .chain (k + 1) c
      | logical => cases h
    | comparison c =>
      cases h
      exact .chain 0 c
  · intro h
    induction h with
    | chain k c => exact toSpecification_negations k c
    | logical _ _ ihl ihr => rw [toSpecification, ihl, ihr]; rfl

theorem wellFormed_negations {k : Nat} {e : Expression} :
    (negations k e).WellFormed ↔ e.WellFormed := by
  induction k with
  | zero => rfl
  | succ k ih => exact ih

theorem absorb_negations (j k : Nat) (e : Expression) :
    (negations j e).absorb k = e.absorb (k + j) := by
  induction j generalizing k with
  | zero => rfl
  | succ j ih => rw [negations, absorb, ih, Nat.add_right_comm, Nat.add_assoc]

theorem absorbed_negations_comparison (k : Nat) (c : Comparison) :
    (negations k (comparison c)).absorbed = comparison (c.under k) := by
  rw [absorbed, absorb_negations, absorb, Nat.zero_add]

theorem absorbed_logical (op : LogicalOperator) (l r : Expression) :
    (logical op l r).absorbed = logical op l.absorbed r.absorbed := rfl

theorem NegationFree.absorbed_eq {e : Expression} (h : e.NegationFree) : e.absorbed = e := by
  induction e with
  | logical op l r ihl ihr => rw [absorbed_logical, ihl h.1, ihr h.2]
  | negation e => cases h
  | comparison c => rfl

theorem MapsTo.absorbed {e : Expression} {m : MatchSpecification} (h : e.MapsTo m) :
    e.absorbed.NegationFree ∧ e.absorbed.MapsTo m := by
  induction h with
  | chain k c =>
    rw [absorbed_negations_comparison]
    exact ⟨trivial, .chain 0 (c.under k)⟩
  | logical _ _ ihl ihr =>
    rw [absorbed_logical]
    exact ⟨⟨ihl.1, ihr.1⟩, .logical ihl.2 ihr.2⟩

theorem MapsTo.wellFormed_iff {e : Expression} {m : MatchSpecification} (h : e.MapsTo m) :
    m.WellFormed ↔ e.WellFormed := by
  induction h with
  | chain k c =>
    rw [wellFormed_negations]
    constructor
    · rintro ⟨d, hd, h⟩
      rw [← TagFilter.ofComparison_inj.mp h] at hd
      exact Comparison.wellFormed_under.mp hd
    · intro hc
      exact ⟨c.under k, Comparison.wellFormed_under.mpr hc, rfl⟩
  | logical _ _ ihl ihr => exact and_congr ihl ihr

theorem WellFormed.toSpecification {e : Expression} {m : MatchSpecification}
    (hw : e.WellFormed) (hm : e.toSpecification = .ok m) : m.WellFormed :=
  (toSpecification_eq_ok_iff.mp hm).wellFormed_iff.mpr hw

def failingCalls : Expression :=
  .logical .conjunction
    (negations 3 (.comparison ⟨some .source, "http.status", .lessThan, some "500"⟩))
    (.logical .disjunction (.comparison ⟨none, "zone", .isEmpty, none⟩)
      (.negation (.comparison ⟨some .destination, "service", .contains, some "shop"⟩)))

def failingCallsSpecification : MatchSpecification :=
  .logical (.tagFilter ⟨"http.status", "GREATER_OR_EQUAL_THAN", some "SOURCE", some "500"⟩)
    .conjunction
    (.logical (.tagFilter ⟨"zone", "IS_EMPTY", none, none⟩) .disjunction
      (.tagFilter ⟨"service", "NOT_CONTAIN", some "DESTINATION", some "shop"⟩))

theorem toSpecification_failingCalls :
    failingCalls.toSpecification = .ok failingCallsSpecification := rfl

end Expression

end Monitoring
