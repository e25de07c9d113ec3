import Monitoring.Proofs.MatchSpecification.Negations

namespace Monitoring.Expression

variable {op : LogicalOperator} {e f l r o : Expression} {m : MatchSpecification}

inductive IsPart (f : Expression) : Expression → Prop
  | whole : IsPart f f
  | left {l : Expression} (op : LogicalOperator) (r : Expression) (h : IsPart f l) :
      IsPart f (logical op l r)
  | right {r : Expression} (op : LogicalOperator) (l : Expression) (h : IsPart f r) :
      IsPart f (logical op l r)
  | operand {e : Expression} (h : IsPart f e) : IsPart f (negation e)

def postorder : Expression → List Expression
  | logical op l r => l.postorder ++ r.postorder ++ [logical op l r]
  | negation e => e.postorder ++ [negation e]
  | comparison c => [comparison c]

theorem mem_postorder_iff : f ∈ e.postorder ↔ f.IsPart e := by
  constructor
  · intro h
    induction e with
    | logical op l r ihl ihr =>
      rw [postorder, List.mem_append, List.mem_append, List.mem_singleton] at h
      obtain (h | h) | rfl := h
      · exact .left op r (ihl h)
      · exact .right op l (ihr h)
      · exact .whole
    | negation e ih =>
      rw [postorder, List.mem_append, List.mem_singleton] at h
      obtain h | rfl := h
      · exact .operand (ih h)
      · exact .whole
    | comparison c =>
      obtain rfl := List.mem_singleton.mp h
      exact .whole
  · intro h
    induction h with
    | whole => cases f <;> simp [postorder]
    | left op r _ ih => exact List.mem_append_left _ (List.mem_append_left _ ih)
    | right op l _ ih => exact List.mem_append_left _ (List.mem_append_right _ ih)
    | operand _ ih => exact List.mem_append_left _ ih

def negatesLogical : Expression → Bool
  | negation e => e.isLogical
  | _ => false

def FirstNegated (e o : Expression) : Prop :=
  e.postorder.find? negatesLogical = some (negation o)

theorem FirstNegated.left (h : l.FirstNegated o) : (logical op l r).FirstNegated o := by
  rw [FirstNegated] at h
  rw [FirstNegated, postorder, List.find?_append, List.find?_append, h]
  rfl

theorem FirstNegated.operand (h : e.FirstNegated o) : (negation e).FirstNegated o := by
  rw [FirstNegated] at h
  rw [FirstNegated, postorder, List.find?_append, h]
  rfl

theorem isLogical_negations_comparison (k : Nat) (c : Comparison) :
    (negations k (comparison c)).isLogical = false := by
  cases k <;> rfl

theorem MapsTo.find?_postorder (h : e.MapsTo m) : e.postorder.find? negatesLogical = none := by
  induction h with
  | chain k c =>
    induction k with
    | zero => rfl
    | succ k ih =>
      rw [negations, postorder, List.find?_append, ih, Option.none_or]
      exact List.find?_singleton.trans
        (if_neg (by simp [negatesLogical, isLogical_negations_comparison]))
  | logical _ _ ihl ihr =>
    rw [postorder, List.find?_append, List.find?_append, ihl, ihr]
    rfl

theorem FirstNegated.right (hl : l.MapsTo m) (h : r.FirstNegated o) :
    (logical op l r).FirstNegated o := by
  rw [FirstNegated] at h
  rw [FirstNegated, postorder, List.find?_append, List.find?_append, hl.find?_postorder, h]
  rfl

theorem MapsTo.firstNegated (he : e.MapsTo m) (h : e.isLogical = true) :
    (negation e).FirstNegated e := by
  rw [FirstNegated, postorder, List.find?_append, he.find?_postorder, Option.none_or]
  exact List.find?_singleton.trans (if_pos h)

theorem mapsTo_or_firstNegated (e : Expression) :
    (∃ m, e.MapsTo m) ∨
      ∃ o, e.FirstNegated o ∧ e.toSpecification = .error (.unsupportedNegation o.render) := by
  induction e with
  | logical op l r ihl ihr =>
    rcases ihl with ⟨ml, hl⟩ | ⟨o, ho, herror⟩
    · rcases ihr with ⟨mr, hr⟩ | ⟨o, ho, herror⟩
      · exact .inl ⟨_, .logical hl hr⟩
      · refine .inr ⟨o, ho.right hl, ?_⟩
        rw [toSpecification, toSpecification_eq_ok_iff.mpr hl, herror]
        rfl
    · refine .inr ⟨o, ho.left, ?_⟩
      rw [toSpecification, herror]
      rfl
  | negation e ih =>
    rcases ih with ⟨m, hm⟩ | ⟨o, ho, herror⟩
    · have hok := toSpecification_eq_ok_iff.mpr hm
      cases hm with
      | chain k c => exact .inl ⟨_, .chain (k + 1) c⟩
      | logical left right =>
        refine .inr ⟨_, (MapsTo.logical left right).firstNegated rfl, ?_⟩
        rw [toSpecification, hok]
        rfl
    · refine .inr ⟨o, ho.operand, ?_⟩
      rw [toSpecification, herror]
      rfl
  | comparison c => exact .inl ⟨_, .chain 0 c⟩

theorem find?_postorder_eq_none_iff :
    e.postorder.find? negatesLogical = none ↔
      ∀ o, (negation o).IsPart e → o.isLogical = false := by
  simp only [List.find?_eq_none, mem_postorder_iff, Bool.not_eq_true]
  constructor
  · intro h o ho
    exact h (negation o) ho
  · intro h f hf
    cases f with
    | logical op l r => rfl
    | negation o => exact h o hf
    | comparison c => rfl

/-- An expression has a specification exactly if no NOT in it stands over AND or OR. Otherwise the
one error names the operand of the first such NOT in post-order by its canonical text. -/
theorem toSpecification_refuses_firstNegated (e : Expression) :
    ((∃ m, e.toSpecification = .ok m) ↔ ∀ o, (negation o).IsPart e → o.isLogical = false) ∧
    ∀ err, e.toSpecification = .error err ↔
      ∃ o, e.FirstNegated o ∧ err = .unsupportedNegation o.render := by
  rw [← find?_postorder_eq_none_iff]
  rcases e.mapsTo_or_firstNegated with ⟨m, hm⟩ | ⟨o, ho, herror⟩
  · have hok := toSpecification_eq_ok_iff.mpr hm
    have hnone := hm.find?_postorder
    refine ⟨iff_of_true ⟨m, hok⟩ hnone, fun err => iff_of_false ?_ ?_⟩
    · rw [hok]
      exact nofun
    · rintro ⟨o, ho, -⟩
      rw [FirstNegated, hnone] at ho
      cases ho
  · rw [FirstNegated] at ho
    refine ⟨iff_of_false ?_ ?_, fun err => ?_⟩
    · rintro ⟨m, hm⟩
      rw [herror] at hm
      cases hm
    · rw [ho]
      exact nofun
    · constructor
      · intro h
        rw [herror] at h
        exact ⟨o, ho, (Except.error.inj h).symm⟩
      · rintro ⟨o', ho', rfl⟩
        rw [FirstNegated, ho] at ho'
        cases ho'
        exact herror

example :
    let inner := logical .conjunction (comparison ⟨none, "a", .isEmpty, none⟩)
      (comparison ⟨none, "b", .isEmpty, none⟩)
    let outer := logical .disjunction (negation inner) (comparison ⟨none, "c", .isBlank, none⟩)
    (negation outer).toSpecification = .error (.unsupportedNegation inner.render) := rfl

end Monitoring.Expression
