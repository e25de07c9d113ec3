import Monitoring.Proofs.Expression.CanonicalTokens
import Monitoring.Proofs.Expression.Grammar

namespace Monitoring.Expression

def precede (op : LogicalOperator) (left : Expression) : Expression → Expression
  | logical root l r =>
    if root = op then logical op (precede op left l) r else logical op left (logical root l r)
  | negation e => logical op left (negation e)
  | comparison c => logical op left (comparison c)

/-- The expression with every maximal chain of one operator grouped to the left. -/
def leftGrouped : Expression → Expression
  | logical op l r => precede op l.leftGrouped r.leftGrouped
  | negation e => negation e.leftGrouped
  | comparison c => comparison c

def operands (op : LogicalOperator) : Expression → List Expression
  | logical root l r =>
    if root = op then l.operands op ++ r.operands op else [logical root l r]
  | negation e => [negation e]
  | comparison c => [comparison c]

def hasRoot (op : LogicalOperator) : Expression → Bool
  | logical root _ _ => root = op
  | _ => false

def IsLeftGrouped : Expression → Prop
  | logical op l r => l.IsLeftGrouped ∧ r.IsLeftGrouped ∧ r.hasRoot op = false
  | negation e => e.IsLeftGrouped
  | comparison _ => True

def truth (v : Comparison → Bool) : Expression → Bool
  | logical .conjunction l r => l.truth v && r.truth v
  | logical .disjunction l r => l.truth v || r.truth v
  | negation e => !e.truth v
  | comparison c => v c

variable {op : LogicalOperator}

theorem precede_of_hasRoot_eq_false (left : Expression) {e : Expression}
    (h : e.hasRoot op = false) : precede op left e = logical op left e := by
  cases e with
  | logical root l r => simp_all [hasRoot, precede]
  | negation e => rfl
  | comparison c => rfl

theorem hasRoot_precede (root : LogicalOperator) (left e : Expression) :
    (precede op left e).hasRoot root = decide (op = root) := by
  fun_induction precede op left e <;> rfl

theorem hasRoot_leftGrouped (e : Expression) : e.leftGrouped.hasRoot op = e.hasRoot op := by
  cases e with
  | logical root l r => rw [leftGrouped, hasRoot_precede, hasRoot]
  | negation e => rfl
  | comparison c => rfl

theorem operands_of_hasRoot_eq_false {e : Expression} (h : e.hasRoot op = false) :
    e.operands op = [e] := by
  cases e with
  | logical root l r => simp_all [hasRoot, operands]
  | negation e => rfl
  | comparison c => rfl

theorem operands_precede (left e : Expression) :
    (precede op left e).operands op = left.operands op ++ e.operands op := by
  fun_induction precede op left e with
  | case1 l r ih => simp only [operands, if_true, ih, List.append_assoc]
  | case2 root l r h => simp only [operands, if_true, if_neg h]
  | case3 e => simp only [operands, if_true]
  | case4 c => simp only [operands, if_true]

theorem operands_leftGrouped (e : Expression) :
    e.leftGrouped.operands op = (e.operands op).map leftGrouped := by
  induction e with
  | logical root l r ihl ihr =>
    by_cases h : root = op
    · subst h
      rw [leftGrouped, operands_precede, ihl, ihr, operands, if_pos rfl, List.map_append]
    · rw [operands, if_neg h, List.map_singleton]
      apply operands_of_hasRoot_eq_false
      rw [hasRoot_leftGrouped, hasRoot, decide_eq_false h]
  | negation e => rfl
  | comparison c => rfl

theorem IsLeftGrouped.precede {left e : Expression} (hl : left.IsLeftGrouped)
    (he : e.IsLeftGrouped) : (precede op left e).IsLeftGrouped := by
  fun_induction Expression.precede op left e with
  | case1 l r ih => exact ⟨ih he.1, he.2⟩
  | case2 root l r h => exact ⟨hl, he, decide_eq_false h⟩
  | case3 e => exact ⟨hl, he, rfl⟩
  | case4 c => exact ⟨hl, he, rfl⟩

theorem isLeftGrouped_leftGrouped (e : Expression) : e.leftGrouped.IsLeftGrouped := by
  induction e with
  | logical op l r ihl ihr => exact ihl.precede ihr
  | negation e ih => exact ih
  | comparison c => trivial

theorem IsLeftGrouped.leftGrouped_eq {e : Expression} (h : e.IsLeftGrouped) :
    e.leftGrouped = e := by
  induction e with
  | logical op l r ihl ihr =>
    obtain ⟨hl, hr, hroot⟩ := h
    rw [leftGrouped, ihl hl, ihr hr, precede_of_hasRoot_eq_false l hroot]
  | negation e ih => rw [leftGrouped, ih h]
  | comparison c => rfl

theorem WellFormed.precede {left e : Expression} (hl : left.WellFormed) (he : e.WellFormed) :
    (precede op left e).WellFormed := by
  fun_induction Expression.precede op left e with
  | case1 l r ih => exact ⟨ih he.1, he.2⟩
  | case2 => exact ⟨hl, he⟩
  | case3 => exact ⟨hl, he⟩
  | case4 => exact ⟨hl, he⟩

theorem WellFormed.leftGrouped {e : Expression} (h : e.WellFormed) :
    e.leftGrouped.WellFormed := by
  induction e with
  | logical op l r ihl ihr => exact (ihl h.1).precede (ihr h.2)
  | negation e ih => exact ih h
  | comparison c => exact h

theorem truth_precede (v : Comparison → Bool) (left e : Expression) :
    (precede op left e).truth v = (logical op left e).truth v := by
  fun_induction precede op left e with
  | case1 l r ih => cases op <;> simp only [truth, ih, Bool.and_assoc, Bool.or_assoc]
  | case2 => rfl
  | case3 => rfl
  | case4 => rfl

theorem truth_leftGrouped (v : Comparison → Bool) (e : Expression) :
    e.leftGrouped.truth v = e.truth v := by
  induction e with
  | logical op l r ihl ihr =>
    rw [leftGrouped, truth_precede]
    cases op <;> simp only [truth, ihl, ihr]
  | negation e ih => rw [leftGrouped, truth, truth, ih]
  | comparison c => rfl

theorem bindsLooser_eq (e : Expression) (parent : LogicalOperator) :
    e.bindsLooser parent = (e.hasRoot .disjunction && decide (parent = .conjunction)) := by
  cases e with
  | logical root l r => cases root <;> simp [bindsLooser, hasRoot]
  | negation e => rfl
  | comparison c => rfl

theorem isLogical_eq (e : Expression) :
    e.isLogical = (e.hasRoot .conjunction || e.hasRoot .disjunction) := by
  cases e with
  | logical root l r => cases root <;> rfl
  | negation e => rfl
  | comparison c => rfl

theorem bindsLooser_of_hasRoot {e : Expression} (h : e.hasRoot op = true) :
    e.bindsLooser op = false := by
  cases e with
  | logical root l r => cases root <;> cases op <;> simp_all [bindsLooser, hasRoot]
  | negation e => rfl
  | comparison c => rfl

theorem chars_precede (left e : Expression) :
    (precede op left e).chars = (logical op left e).chars := by
  fun_induction precede op left e with
  | case1 l r ih =>
    have hp : (precede op left l).bindsLooser op = false :=
      bindsLooser_of_hasRoot (by simp [hasRoot_precede])
    have hl : (logical op l r).bindsLooser op = false :=
      bindsLooser_of_hasRoot (by simp [hasRoot])
    simp only [chars, hp, hl, ih, Bool.false_eq_true, if_false, List.append_assoc,
      List.cons_append]
  | case2 => rfl
  | case3 => rfl
  | case4 => rfl

theorem chars_leftGrouped (e : Expression) : e.leftGrouped.chars = e.chars := by
  induction e with
  | logical op l r ihl ihr =>
    rw [leftGrouped, chars_precede]
    simp only [chars, bindsLooser_eq, hasRoot_leftGrouped, ihl, ihr]
  | negation e ih => simp only [leftGrouped, chars, isLogical_eq, hasRoot_leftGrouped, ih]
  | comparison c => rfl

theorem render_leftGrouped (e : Expression) : e.leftGrouped.render = e.render := by
  rw [render, render, chars_leftGrouped]

end Monitoring.Expression
