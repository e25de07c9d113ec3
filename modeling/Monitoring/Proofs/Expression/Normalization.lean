import Monitoring.Proofs.Expression.Parenthesized

namespace Monitoring.Expression

open ParseErrorKind (maxNesting)

theorem normalize_eq_ok_iff {text canonical : String} :
    normalize text = .ok canonical ↔ ∃ e, parse text = .ok e ∧ e.render = canonical :=
  Result.map_eq_ok_iff

def Holds (canonical : String) (e : Expression) : Prop :=
  ∃ f, parse canonical = .ok f ∧ (∀ v, f.truth v = e.truth v) ∧ normalize canonical = .ok canonical

theorem holds_render {e : Expression} (hw : e.WellFormed)
    (hh : e.leftGrouped.height ≤ maxNesting) : Holds e.render e := by
  have hp := parse_render_of_height_le hw hh
  refine ⟨e.leftGrouped, hp, fun v => truth_leftGrouped v e, ?_⟩
  rw [normalize_eq_ok_iff]
  exact ⟨e.leftGrouped, hp, e.render_leftGrouped⟩

/-- The canonical text can stand in place of the text it was made from exactly if the regrouped
tree keeps the limit on height; otherwise it is refused as nested too deep. -/
theorem normalize_holds_iff {text canonical : String} {e : Expression} (hp : parse text = .ok e)
    (hn : normalize text = .ok canonical) :
    (Holds canonical e ↔ e.leftGrouped.height ≤ maxNesting) ∧
    (maxNesting < e.leftGrouped.height →
      ∃ position, parse canonical = .error ⟨.nestingTooDeep, position⟩) := by
  have hw := wellFormed_of_parse hp
  obtain ⟨f, hf, rfl⟩ := normalize_eq_ok_iff.mp hn
  obtain rfl : e = f := Except.ok.inj (hp.symm.trans hf)
  refine ⟨⟨?_, holds_render hw⟩, parse_render_of_lt_height hw⟩
  rintro ⟨f, hf, _⟩
  apply Nat.le_of_not_lt
  intro hh
  obtain ⟨position, herror⟩ := parse_render_of_lt_height hw hh
  rw [herror] at hf
  cases hf

def evenChain : Nat → Expression
  | 0 => .comparison ⟨none, "zone", .isEmpty, none⟩
  | n + 1 => .logical .conjunction (evenChain n) (evenChain n)

theorem normalize_evenChain :
    let text := String.ofList (evenChain 9).parenthesizedChars
    parse text = .ok (evenChain 9) ∧ normalize text = .ok (evenChain 9).render ∧
      ¬Holds (evenChain 9).render (evenChain 9) ∧
      ∃ position, parse (evenChain 9).render = .error ⟨.nestingTooDeep, position⟩ := by
  have hw : (evenChain 9).WellFormed := by decide +kernel
  have hh : (evenChain 9).height ≤ maxNesting := by decide +kernel
  have hg : maxNesting < (evenChain 9).leftGrouped.height := by decide +kernel
  have hp := parse_parenthesizedChars hw hh
  have hn := normalize_eq_ok_iff.mpr ⟨evenChain 9, hp, rfl⟩
  obtain ⟨hiff, herror⟩ := normalize_holds_iff hp hn
  exact ⟨hp, hn, fun hs => Nat.not_le_of_lt hg (hiff.mp hs), herror hg⟩

end Monitoring.Expression
