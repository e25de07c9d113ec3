import Monitoring.Proofs.Expression.Completeness
import Monitoring.Proofs.Expression.Grouping

namespace Monitoring.Expression

open ParseErrorKind (maxNesting)
open Token (LexAs operandKind)

theorem operandText_operandKind (text : String) : OperandText (operandKind text) text := by
  unfold operandKind
  split
  case isTrue => exact .quoted text
  case isFalse => exact .word text

theorem comparisonText_kinds {c : Comparison} (h : c.WellFormed) : ComparisonText c.kinds c := by
  obtain ⟨filled, hv⟩ := h
  apply ComparisonText.intro _ (operandText_operandKind c.tag) filled
  · generalize c.value = value at hv
    cases value with
    | none => exact .absent (by simpa using hv)
    | some v => exact .present (by simpa using hv) (operandText_operandKind v)
  · cases c.entity with
    | none => exact .absent
    | some e => exact .present (by simp [Text.equalsIgnoringCase])

def tier : Expression → Tier
  | logical op _ _ => .chain op
  | negation _ => .unary
  | comparison _ => .unary

def DerivedFrom (ks : List TokenKind) (e : Expression) : Prop :=
  ∃ n, n + (if e.isLogical then 2 else 1) ≤ e.height ∧ Derives e.tier n ks e

namespace DerivedFrom

variable {ks ls : List TokenKind} {op : LogicalOperator} {e l r : Expression}

theorem comparison {c : Comparison} (h : c.WellFormed) : DerivedFrom c.kinds (.comparison c) :=
  ⟨0, Nat.le_refl 1, .primary (.comparison (comparisonText_kinds h))⟩

theorem operand (h : DerivedFrom ks e) (hroot : e.hasRoot op = false) :
    ∃ n, n + 1 ≤ e.height ∧
      Derives (.operand op) n (if e.bindsLooser op then parenthesizedKinds ks else ks) e := by
  obtain ⟨n, hn, hd⟩ := h
  cases e with
  | logical root l r =>
    simp only [isLogical, if_true] at hn
    cases root with
    | conjunction =>
      cases op with
      | conjunction => cases hroot
      | disjunction => exact ⟨n, by omega, hd⟩
    | disjunction =>
      cases op with
      | conjunction => exact ⟨n + 1, by omega, .primary (.parenthesized hd)⟩
      | disjunction => cases hroot
  | negation e =>
    cases op with
    | conjunction => exact ⟨n, hn, hd⟩
    | disjunction => exact ⟨n, hn, .operand hd⟩
  | comparison c =>
    cases op with
    | conjunction => exact ⟨n, hn, hd⟩
    | disjunction => exact ⟨n, hn, .operand hd⟩

theorem chain (op : LogicalOperator) (h : DerivedFrom ks e) :
    ∃ n, n + 1 ≤ e.height ∧
      Derives (.chain op) n (if e.bindsLooser op then parenthesizedKinds ks else ks) e := by
  cases hroot : e.hasRoot op with
  | false =>
    obtain ⟨n, hn, hd⟩ := h.operand hroot
    exact ⟨n, hn, .operand hd⟩
  | true =>
    obtain ⟨n, hn, hd⟩ := h
    rw [bindsLooser_of_hasRoot hroot]
    cases e with
    | logical root l r =>
      simp only [isLogical, if_true] at hn
      obtain rfl : root = op := by simpa [hasRoot] using hroot
      exact ⟨n, by omega, hd⟩
    | negation e => cases hroot
    | comparison c => cases hroot

theorem disjunction (h : DerivedFrom ks e) :
    ∃ n, n + 1 ≤ e.height ∧ Derives (.chain .disjunction) n ks e := by
  have hb : e.bindsLooser .disjunction = false := by simp [bindsLooser_eq]
  have hc := h.chain .disjunction
  rwa [hb] at hc

theorem unary (h : DerivedFrom ks e) :
    ∃ n, n + 1 ≤ e.height ∧
      Derives .unary n (if e.isLogical then parenthesizedKinds ks else ks) e := by
  obtain ⟨n, hn, hd⟩ := h
  cases e with
  | logical root l r =>
    simp only [isLogical, if_true] at hn
    refine ⟨n + 1, by omega, .primary (.parenthesized ?_)⟩
    cases root with
    | conjunction => exact .operand hd
    | disjunction => exact hd
  | negation e => exact ⟨n, hn, hd⟩
  | comparison c => exact ⟨n, hn, hd⟩

theorem negation (h : DerivedFrom ks e) :
    DerivedFrom
      (.keyword .negation :: if e.isLogical then parenthesizedKinds ks else ks) (.negation e) := by
  obtain ⟨n, hn, hd⟩ := h.unary
  refine ⟨n + 1, ?_, .negation hd⟩
  simpa [isLogical, height] using hn

theorem logical {n m : Nat} (hl : n + 1 ≤ l.height) (hr : m + 1 ≤ r.height)
    (hdl : Derives (.chain op) n ks l) (hdr : Derives (.operand op) m ls r) :
    DerivedFrom (ks ++ .keyword (.logical op) :: ls) (.logical op l r) := by
  refine ⟨max n m, ?_, .join hdl hdr⟩
  simp only [isLogical, height, if_true]
  omega

end DerivedFrom

theorem derivedFrom_kinds {e : Expression} (hw : e.WellFormed) (hg : e.IsLeftGrouped) :
    DerivedFrom e.kinds e := by
  induction e with
  | logical op l r ihl ihr =>
    obtain ⟨hl, hr, hroot⟩ := hg
    obtain ⟨n, hn, hdl⟩ := (ihl hw.1 hl).chain op
    obtain ⟨m, hm, hdr⟩ := (ihr hw.2 hr).operand hroot
    exact .logical hn hm hdl hdr
  | negation e ih => exact (ih hw hg).negation
  | comparison c => exact .comparison hw

theorem DerivedFrom.parse {cs : List Char} {ks : List TokenKind} {e : Expression}
    (h : DerivedFrom ks e) (hl : LexAs cs ks) :
    ExpectedUnless (maxNesting < e.height) (parse (String.ofList cs)) (.ok e) := by
  obtain ⟨n, hn, hd⟩ := h.disjunction
  obtain ⟨ts, hts, rfl⟩ := hl.tokenize
  rw [Expression.parse, hts]
  rcases ofTokens_of_derives hd with hr | ⟨deep, position, hr⟩
  · exact .inl hr
  · exact .inr ⟨by omega, position, hr⟩

theorem parse_render_cases {e : Expression} (h : e.WellFormed) :
    ExpectedUnless (maxNesting < e.leftGrouped.height) (parse e.render) (.ok e.leftGrouped) := by
  have hd := derivedFrom_kinds h.leftGrouped (isLeftGrouped_leftGrouped e)
  have hp := hd.parse e.leftGrouped.lexAs_chars
  rwa [chars_leftGrouped] at hp

theorem wellFormed_of_parse {text : String} {e : Expression} (h : parse text = .ok e) :
    e.WellFormed := by
  obtain ⟨ts, _, h⟩ := Result.bind_eq_ok_iff.mp h
  obtain ⟨⟨_, _, hd⟩, _⟩ := derives_of_ofTokens (by decide) h
  exact hd.wellFormed

theorem height_le_of_parse {text : String} {e : Expression} (h : parse text = .ok e) :
    e.height ≤ maxNesting := by
  obtain ⟨ts, _, h⟩ := Result.bind_eq_ok_iff.mp h
  exact (derives_of_ofTokens (by decide) h).2

theorem parse_render_of_height_le {e : Expression} (hw : e.WellFormed)
    (hh : e.leftGrouped.height ≤ maxNesting) : parse e.render = .ok e.leftGrouped := by
  rcases parse_render_cases hw with h | ⟨deep, _, _⟩
  · exact h
  · omega

theorem parse_render_of_lt_height {e : Expression} (hw : e.WellFormed)
    (hh : maxNesting < e.leftGrouped.height) :
    ∃ position, parse e.render = .error ⟨.nestingTooDeep, position⟩ := by
  rcases parse_render_cases hw with h | ⟨_, position, h⟩
  · have := height_le_of_parse h
    omega
  · exact ⟨position, h⟩

theorem parse_render_of_isLeftGrouped {e : Expression} (hw : e.WellFormed) (hg : e.IsLeftGrouped)
    (hh : e.height ≤ maxNesting) : parse e.render = .ok e := by
  have h := parse_render_of_height_le hw
  rw [hg.leftGrouped_eq] at h
  exact h hh

/-- Rendering and parsing undo each other up to regrouping. A canonical text is only refused for
the height of its regrouped tree. -/
theorem parse_render {e : Expression} (hw : e.WellFormed) :
    (e.leftGrouped.height ≤ maxNesting → parse e.render = .ok e.leftGrouped) ∧
    (maxNesting < e.leftGrouped.height →
      ∃ position, parse e.render = .error ⟨.nestingTooDeep, position⟩) ∧
    (e.IsLeftGrouped → e.height ≤ maxNesting → parse e.render = .ok e) ∧
    e.leftGrouped.IsLeftGrouped ∧
    ∀ op, e.leftGrouped.operands op = (e.operands op).map leftGrouped :=
  ⟨parse_render_of_height_le hw, parse_render_of_lt_height hw, parse_render_of_isLeftGrouped hw,
    isLeftGrouped_leftGrouped e, fun _ => operands_leftGrouped e⟩

def alternatives : Expression :=
  .logical .disjunction (.comparison ⟨none, "zone", .isEmpty, none⟩)
    (.logical .disjunction (.comparison ⟨some .source, "not", .equals, some "it's"⟩)
      (.negation (.comparison ⟨none, "zone", .isBlank, none⟩)))

theorem parse_render_alternatives :
    alternatives.WellFormed ∧
    parse "zone is_empty or src:'not' equals 'it\\'s' or not zone is_blank" =
      .ok (.logical .disjunction
        (.logical .disjunction (.comparison ⟨none, "zone", .isEmpty, none⟩)
          (.comparison ⟨some .source, "not", .equals, some "it's"⟩))
        (.negation (.comparison ⟨none, "zone", .isBlank, none⟩))) := by
  have hw : alternatives.WellFormed := by decide
  exact ⟨hw, (parse_render hw).1 (by decide)⟩

end Monitoring.Expression
