import Monitoring.Proofs.Expression.Normalization

namespace Monitoring

theorem Token.LexAs.unique {cs : List Char} {ks ls : List TokenKind} (h : LexAs cs ks)
    (h' : LexAs cs ls) : ks = ls := by
  obtain ⟨ts, hts, rfl⟩ := h.tokenize
  obtain ⟨us, hus, rfl⟩ := h'.tokenize
  obtain rfl : ts = us := Except.ok.inj (hts.symm.trans hus)
  rfl

namespace Expression

open ParseErrorKind (maxNesting)

variable {op : LogicalOperator} {e f : Expression}

inductive Regroups : Expression → Expression → Prop
  | refl (e : Expression) : Regroups e e
  | symm {e f : Expression} (h : Regroups e f) : Regroups f e
  | trans {e f g : Expression} (h : Regroups e f) (h' : Regroups f g) : Regroups e g
  | rotate (op : LogicalOperator) (a b c : Expression) :
      Regroups (logical op a (logical op b c)) (logical op (logical op a b) c)
  | logical {op : LogicalOperator} {l l' r r' : Expression} (left : Regroups l l')
      (right : Regroups r r') : Regroups (logical op l r) (logical op l' r')
  | negation {e f : Expression} (h : Regroups e f) : Regroups (negation e) (negation f)

theorem regroups_precede (left e : Expression) :
    Regroups (logical op left e) (precede op left e) := by
  fun_induction precede op left e with
  | case1 l r ih => exact (Regroups.rotate op left l r).trans (.logical ih (.refl r))
  | case2 => exact .refl _
  | case3 => exact .refl _
  | case4 => exact .refl _

theorem regroups_leftGrouped (e : Expression) : Regroups e e.leftGrouped := by
  induction e with
  | logical op l r ihl ihr =>
    have hoperands : Regroups (logical op l r) (logical op l.leftGrouped r.leftGrouped) :=
      .logical ihl ihr
    exact hoperands.trans (regroups_precede l.leftGrouped r.leftGrouped)
  | negation e ih => exact .negation ih
  | comparison c => exact .refl _

theorem precede_precede (a b c : Expression) :
    precede op a (precede op b c) = precede op (precede op a b) c := by
  fun_induction precede op b c with
  | case1 l r ih => simp only [precede, if_true, ih]
  | case2 root l r h => simp only [precede, if_true, if_neg h]
  | case3 e => simp only [precede, if_true]
  | case4 c => simp only [precede, if_true]

theorem leftGrouped_eq_iff_regroups : e.leftGrouped = f.leftGrouped ↔ Regroups e f := by
  constructor
  · intro h
    have he := regroups_leftGrouped e
    rw [h] at he
    exact he.trans (regroups_leftGrouped f).symm
  · intro h
    induction h with
    | refl => rfl
    | symm _ ih => exact ih.symm
    | trans _ _ ih ih' => exact ih.trans ih'
    | rotate op a b c => exact precede_precede a.leftGrouped b.leftGrouped c.leftGrouped
    | logical _ _ ihl ihr => rw [leftGrouped, leftGrouped, ihl, ihr]
    | negation _ ih => rw [leftGrouped, leftGrouped, ih]

theorem exists_derives_kinds (h : e.WellFormed) :
    ∃ n, Derives (.chain .disjunction) n e.kinds e.leftGrouped := by
  have hd := derivedFrom_kinds h.leftGrouped (isLeftGrouped_leftGrouped e)
  have hlex := e.leftGrouped.lexAs_chars
  rw [chars_leftGrouped] at hlex
  obtain ⟨n, -, hn⟩ := hd.disjunction
  exact ⟨n, hlex.unique e.lexAs_chars ▸ hn⟩

theorem render_eq_iff (he : e.WellFormed) (hf : f.WellFormed) :
    (e.render = f.render ↔ e.leftGrouped = f.leftGrouped) ∧
    (e.render = f.render ↔ Regroups e f) := by
  have hgrouped : e.render = f.render ↔ e.leftGrouped = f.leftGrouped := by
    constructor
    · intro h
      obtain ⟨n, hn⟩ := exists_derives_kinds he
      obtain ⟨m, hm⟩ := exists_derives_kinds hf
      have hkinds : e.kinds = f.kinds := by
        have hlex := e.lexAs_chars
        rw [String.ofList_injective h] at hlex
        exact hlex.unique f.lexAs_chars
      rw [hkinds] at hn
      exact hn.unique hm
    · intro h
      rw [← e.render_leftGrouped, h, f.render_leftGrouped]
  exact ⟨hgrouped, hgrouped.trans leftGrouped_eq_iff_regroups⟩

theorem render_evenChain :
    (evenChain 9).WellFormed ∧ maxNesting < (evenChain 9).leftGrouped.height ∧
    (evenChain 9).render = (evenChain 9).leftGrouped.render ∧
    (evenChain 9).render ≠ (evenChain 8).render := by
  have hw : (evenChain 9).WellFormed := by decide +kernel
  have hhalf : (evenChain 8).WellFormed := by decide +kernel
  have hsame : (evenChain 9).leftGrouped = (evenChain 9).leftGrouped.leftGrouped := by
    decide +kernel
  have hdifferent : (evenChain 9).leftGrouped ≠ (evenChain 8).leftGrouped := by decide +kernel
  exact ⟨hw, by decide +kernel, (render_eq_iff hw hw.leftGrouped).1.mpr hsame,
    fun h => hdifferent ((render_eq_iff hw hhalf).1.mp h)⟩

end Expression

end Monitoring
