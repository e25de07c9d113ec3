import Monitoring.Proofs.MatchSpecification.Inversion
import Monitoring.Proofs.MatchSpecification.Meaning
import Monitoring.Proofs.MatchSpecification.Wire

namespace Monitoring

namespace MatchSpecification

def precede (op : LogicalOperator) (left : MatchSpecification) :
    MatchSpecification → MatchSpecification
  | logical l root r =>
    if root = op then logical (precede op left l) op r else logical left op (logical l root r)
  | tagFilter f => logical left op (tagFilter f)

def leftGrouped : MatchSpecification → MatchSpecification
  | logical l op r => precede op l.leftGrouped r.leftGrouped
  | tagFilter f => tagFilter f

def truth (v : TagFilter → Bool) : MatchSpecification → Bool
  | tagFilter f => v f
  | logical l .conjunction r => l.truth v && r.truth v
  | logical l .disjunction r => l.truth v || r.truth v

theorem filters_precede (op : LogicalOperator) (left m : MatchSpecification) :
    (precede op left m).filters = left.filters ++ m.filters := by
  fun_induction precede op left m with
  | case1 l r ih => simp only [filters, ih, List.append_assoc]
  | case2 => rfl
  | case3 => rfl

theorem filters_leftGrouped (m : MatchSpecification) : m.leftGrouped.filters = m.filters := by
  induction m with
  | tagFilter f => rfl
  | logical l op r ihl ihr => rw [leftGrouped, filters_precede, ihl, ihr, filters]

theorem truth_precede (v : TagFilter → Bool) (op : LogicalOperator) (left m : MatchSpecification) :
    (precede op left m).truth v = (logical left op m).truth v := by
  fun_induction precede op left m with
  | case1 l r ih => cases op <;> simp only [truth, ih, Bool.and_assoc, Bool.or_assoc]
  | case2 => rfl
  | case3 => rfl

theorem truth_leftGrouped (v : TagFilter → Bool) (m : MatchSpecification) :
    m.leftGrouped.truth v = m.truth v := by
  induction m with
  | tagFilter f => rfl
  | logical l op r ihl ihr =>
    rw [leftGrouped, truth_precede]
    cases op <;> simp only [truth, ihl, ihr]

theorem WellFormed.leftGrouped {m : MatchSpecification} (h : m.WellFormed) :
    m.leftGrouped.WellFormed := by
  rw [wellFormed_iff_forall, filters_leftGrouped]
  exact wellFormed_iff_forall.mp h

end MatchSpecification

namespace Expression

variable {op : LogicalOperator} {e left : Expression} {m mleft : MatchSpecification}

theorem NegationFree.precede (hl : left.NegationFree) (he : e.NegationFree) :
    (precede op left e).NegationFree := by
  fun_induction Expression.precede op left e with
  | case1 l r ih => exact ⟨ih he.1, he.2⟩
  | case2 => exact ⟨hl, he⟩
  | case3 => exact ⟨hl, he⟩
  | case4 => exact ⟨hl, he⟩

theorem NegationFree.leftGrouped (h : e.NegationFree) : e.leftGrouped.NegationFree := by
  induction e with
  | logical op l r ihl ihr => exact (ihl h.1).precede (ihr h.2)
  | negation e => cases h
  | comparison c => trivial

theorem MapsTo.precede (hl : left.MapsTo mleft) (he : e.MapsTo m) (hf : e.NegationFree) :
    (precede op left e).MapsTo (.precede op mleft m) := by
  induction he with
  | chain k c =>
    cases k with
    | zero => exact .logical hl (.chain 0 c)
    | succ k => cases hf
  | @logical root l r ml mr left right ihl =>
    rw [Expression.precede, MatchSpecification.precede]
    by_cases h : root = op
    · rw [if_pos h, if_pos h]
      exact .logical (ihl hf.1) right
    · rw [if_neg h, if_neg h]
      exact .logical hl (.logical left right)

theorem MapsTo.leftGrouped (h : e.MapsTo m) (hf : e.NegationFree) :
    e.leftGrouped.MapsTo m.leftGrouped := by
  induction h with
  | chain k c =>
    cases k with
    | zero => exact .chain 0 c
    | succ k => cases hf
  | logical _ _ ihl ihr => exact (ihl hf.1).precede (ihr hf.2) hf.2.leftGrouped

theorem MapsTo.height_eq (h : e.MapsTo m) (hf : e.NegationFree) : e.height = m.depth := by
  induction h with
  | chain k c =>
    cases k with
    | zero => rfl
    | succ k => cases hf
  | logical _ _ ihl ihr => rw [height, MatchSpecification.depth, ihl hf.1, ihr hf.2]

end Expression

theorem MatchSpecification.toExpression_leftGrouped {m : MatchSpecification} {e : Expression}
    (h : m.toExpression = .ok e) : m.leftGrouped.toExpression = .ok e.leftGrouped := by
  obtain ⟨hw, hf, hm⟩ := toExpression_eq_ok_iff.mp h
  exact toExpression_eq_ok_iff.mpr ⟨hw.leftGrouped, hf.leftGrouped, hm.leftGrouped hf⟩

end Monitoring
