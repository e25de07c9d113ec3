import Monitoring.Expression.Parser

namespace Monitoring

def Comparison.WellFormed (c : Comparison) : Prop :=
  Text.isBlank c.tag = false ∧ c.value.isSome = !c.operator.isUnary

instance (c : Comparison) : Decidable c.WellFormed :=
  inferInstanceAs (Decidable (_ ∧ _))

namespace Expression

def WellFormed : Expression → Prop
  | logical _ l r => l.WellFormed ∧ r.WellFormed
  | negation e => e.WellFormed
  | comparison c => c.WellFormed

instance decidableWellFormed : (e : Expression) → Decidable e.WellFormed
  | logical _ l r => @instDecidableAnd _ _ (decidableWellFormed l) (decidableWellFormed r)
  | negation e => decidableWellFormed e
  | comparison c => inferInstanceAs (Decidable c.WellFormed)

def comparisons : Expression → List Comparison
  | logical _ l r => l.comparisons ++ r.comparisons
  | negation e => e.comparisons
  | comparison c => [c]

theorem wellFormed_iff_forall {e : Expression} :
    e.WellFormed ↔ ∀ c ∈ e.comparisons, c.WellFormed := by
  induction e with
  | logical op l r ihl ihr =>
    rw [comparisons, List.forall_mem_append, ← ihl, ← ihr]
    rfl
  | negation e ih => exact ih
  | comparison c =>
    rw [comparisons, List.forall_mem_singleton]
    rfl

inductive EntityText : List TokenKind → Option Entity → Prop
  | absent : EntityText [] none
  | present {word : String} {entity : Entity}
      (spelled : Text.equalsIgnoringCase entity.keyword word = true) :
      EntityText [.word word, .colon] (some entity)

inductive OperandText : TokenKind → String → Prop
  | word (text : String) : OperandText (.word text) text
  | quoted (content : String) : OperandText (.quoted content) content

inductive ValueText (operator : ComparisonOperator) : List TokenKind → Option String → Prop
  | absent (unary : operator.isUnary = true) : ValueText operator [] none
  | present {kind : TokenKind} {value : String} (binary : operator.isUnary = false)
      (operand : OperandText kind value) : ValueText operator [kind] (some value)

inductive ComparisonText : List TokenKind → Comparison → Prop
  | intro {es vs : List TokenKind} {kind : TokenKind} {c : Comparison}
      (entity : EntityText es c.entity) (tag : OperandText kind c.tag)
      (filled : Text.isBlank c.tag = false) (value : ValueText c.operator vs c.value) :
      ComparisonText (es ++ kind :: .keyword (.comparison c.operator) :: vs) c

inductive Tier
  | chain (operator : LogicalOperator)
  | unary
  | primary
  deriving DecidableEq, Repr

def Tier.operand : LogicalOperator → Tier
  | .disjunction => chain .conjunction
  | .conjunction => unary

inductive Derives : Tier → Nat → List TokenKind → Expression → Prop
  | operand {op : LogicalOperator} {n : Nat} {ks : List TokenKind} {e : Expression}
      (h : Derives (.operand op) n ks e) : Derives (.chain op) n ks e
  | join {op : LogicalOperator} {n m : Nat} {ks ls : List TokenKind} {l r : Expression}
      (left : Derives (.chain op) n ks l) (right : Derives (.operand op) m ls r) :
      Derives (.chain op) (max n m) (ks ++ .keyword (.logical op) :: ls) (.logical op l r)
  | negation {n : Nat} {ks : List TokenKind} {e : Expression} (h : Derives .unary n ks e) :
      Derives .unary (n + 1) (.keyword .negation :: ks) (.negation e)
  | primary {n : Nat} {ks : List TokenKind} {e : Expression} (h : Derives .primary n ks e) :
      Derives .unary n ks e
  | parenthesized {n : Nat} {ks : List TokenKind} {e : Expression}
      (h : Derives (.chain .disjunction) n ks e) :
      Derives .primary (n + 1) (.openParenthesis :: (ks ++ [.closeParenthesis])) e
  | comparison {ks : List TokenKind} {c : Comparison} (h : ComparisonText ks c) :
      Derives .primary 0 ks (.comparison c)

theorem ComparisonText.wellFormed {ks : List TokenKind} {c : Comparison}
    (h : ComparisonText ks c) : c.WellFormed := by
  obtain ⟨_, _, filled, value⟩ := h
  refine ⟨filled, ?_⟩
  generalize c.value = v at value
  cases value with
  | absent unary => simp [unary]
  | present binary _ => simp [binary]

theorem Derives.wellFormed {tier : Tier} {n : Nat} {ks : List TokenKind} {e : Expression}
    (h : Derives tier n ks e) : e.WellFormed := by
  induction h with
  | operand _ ih => exact ih
  | join _ _ ihl ihr => exact ⟨ihl, ihr⟩
  | negation _ ih => exact ih
  | primary _ ih => exact ih
  | parenthesized _ ih => exact ih
  | comparison h => exact h.wellFormed

theorem Derives.ne_nil {tier : Tier} {n : Nat} {ks : List TokenKind} {e : Expression}
    (h : Derives tier n ks e) : ks ≠ [] := by
  induction h with
  | operand _ ih => exact ih
  | join => simp
  | negation => simp
  | primary _ ih => exact ih
  | parenthesized => simp
  | comparison h => cases h; simp

theorem Derives.height_le_length {tier : Tier} {n : Nat} {ks : List TokenKind} {e : Expression}
    (h : Derives tier n ks e) : e.height ≤ ks.length := by
  induction h with
  | operand _ ih => exact ih
  | join _ _ ihl ihr =>
    simp only [height, List.length_append, List.length_cons]
    omega
  | negation _ ih =>
    simp only [height, List.length_cons]
    omega
  | primary _ ih => exact ih
  | parenthesized _ ih =>
    simp only [List.length_append, List.length_cons]
    omega
  | comparison h => exact List.length_pos_iff.mpr (Derives.comparison h).ne_nil

theorem height_pos (e : Expression) : 0 < e.height := by
  cases e <;> simp [height]

end Expression

end Monitoring
