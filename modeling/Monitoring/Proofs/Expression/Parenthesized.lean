import Monitoring.Proofs.Expression.RoundTrip

namespace Monitoring.Expression

open ParseErrorKind (maxNesting)
open Token (LexAs)

def parenthesizedChars : Expression → List Char
  | logical op l r =>
    let left := if l.isLogical then parenthesized l.parenthesizedChars else l.parenthesizedChars
    let right := if r.isLogical then parenthesized r.parenthesizedChars else r.parenthesizedChars
    left ++ ' ' :: ((Text.asciiLower op.keyword).toList ++ ' ' :: right)
  | negation e =>
    "not ".toList ++ if e.isLogical then parenthesized e.parenthesizedChars else e.parenthesizedChars
  | comparison c => c.chars

theorem exists_lexAs_derivedFrom {e : Expression} (hw : e.WellFormed) :
    ∃ ks, LexAs e.parenthesizedChars ks ∧ DerivedFrom ks e := by
  have blank : Text.isBlankChar ' ' = true := by decide
  induction e with
  | logical op l r ihl ihr =>
    obtain ⟨ks, hkl, hdl⟩ := ihl hw.1
    obtain ⟨ls, hkr, hdr⟩ := ihr hw.2
    obtain ⟨n, hn, hul⟩ := hdl.unary
    obtain ⟨m, hm, hur⟩ := hdr.unary
    have hr := (lexAs_parenthesizedIf hkr r.isLogical).blank blank
    have ho := ((LexAs.logicalOperator op).append (by decide) hr).blank blank
    refine ⟨_, (lexAs_parenthesizedIf hkl l.isLogical).append (by decide) ho, ?_⟩
    cases op with
    | conjunction => exact .logical hn hm (.operand hul) hur
    | disjunction => exact .logical hn hm (.operand (.operand hul)) (.operand hur)
  | negation e ih =>
    obtain ⟨ks, hk, hd⟩ := ih hw
    have he := (lexAs_parenthesizedIf hk e.isLogical).blank blank
    exact ⟨_, LexAs.negation.append (by decide) he, hd.negation⟩
  | comparison c => exact ⟨c.kinds, c.lexAs_chars, .comparison hw⟩

theorem parse_parenthesizedChars {e : Expression} (hw : e.WellFormed)
    (hh : e.height ≤ maxNesting) : parse (String.ofList e.parenthesizedChars) = .ok e := by
  obtain ⟨ks, hk, hd⟩ := exists_lexAs_derivedFrom hw
  rcases hd.parse hk with h | ⟨deep, _, _⟩
  · exact h
  · omega

theorem exists_parse_eq_ok_iff {e : Expression} :
    (∃ text, parse text = .ok e) ↔ e.WellFormed ∧ e.height ≤ maxNesting := by
  constructor
  · rintro ⟨text, h⟩
    exact ⟨wellFormed_of_parse h, height_le_of_parse h⟩
  · rintro ⟨hw, hh⟩
    exact ⟨_, parse_parenthesizedChars hw hh⟩

end Monitoring.Expression
