import Monitoring.Proofs.Expression.Parenthesized

/-!
The parentheses of canonical texts. Every other token of a text comes back in its canonical text,
up to quoting and the case of words, and of the parentheses there none can go: each expression needs
a number of them on its level, which its canonical text does not exceed.
-/

namespace Monitoring

def TokenKind.isParenthesis : TokenKind → Bool
  | openParenthesis => true
  | closeParenthesis => true
  | _ => false

namespace Expression

open ParseErrorKind (maxNesting)
open Token (operandKind)

def withoutParentheses (ks : List TokenKind) : List TokenKind := ks.filter (!·.isParenthesis)

/-- Tokens that differ at most in the quoting of tags and values and in the case of the words in
front of colons. The case of keywords is not in their kinds. -/
inductive Respelled : List TokenKind → List TokenKind → Prop
  | nil : Respelled [] []
  | entity {v w : String} {ks ls : List TokenKind} (spelled : Text.equalsIgnoringCase v w = true)
      (rest : Respelled ks ls) : Respelled (.word v :: .colon :: ks) (.word w :: .colon :: ls)
  | operand {k l : TokenKind} {text : String} {ks ls : List TokenKind} (left : OperandText k text)
      (right : OperandText l text) (rest : Respelled ks ls) : Respelled (k :: ks) (l :: ls)
  | keyword {ks ls : List TokenKind} (keyword : Keyword) (rest : Respelled ks ls) :
      Respelled (.keyword keyword :: ks) (.keyword keyword :: ls)

theorem Respelled.append {ks ls ks' ls' : List TokenKind} (h : Respelled ks ls)
    (h' : Respelled ks' ls') : Respelled (ks ++ ks') (ls ++ ls') := by
  induction h with
  | nil => exact h'
  | entity spelled _ ih => exact .entity spelled ih
  | operand left right _ ih => exact .operand left right ih
  | keyword keyword _ ih => exact .keyword keyword ih

section Filter

variable {ks ls : List TokenKind}

theorem withoutParentheses_append :
    withoutParentheses (ks ++ ls) = withoutParentheses ks ++ withoutParentheses ls :=
  List.filter_append ks ls

theorem withoutParentheses_keyword (keyword : Keyword) :
    withoutParentheses (.keyword keyword :: ks) = .keyword keyword :: withoutParentheses ks := rfl

theorem withoutParentheses_parenthesizedKinds :
    withoutParentheses (parenthesizedKinds ks) = withoutParentheses ks := by
  rw [withoutParentheses, parenthesizedKinds, List.filter_cons_of_neg (by decide),
    List.filter_append, List.filter_cons_of_neg (by decide), List.filter_nil, List.append_nil]
  rfl

theorem withoutParentheses_parenthesizedIf (condition : Bool) :
    withoutParentheses (if condition then parenthesizedKinds ks else ks) =
      withoutParentheses ks := by
  cases condition with
  | false => rfl
  | true => exact withoutParentheses_parenthesizedKinds

theorem withoutParentheses_of_respelled (h : Respelled ks ls) :
    withoutParentheses ks = ks ∧ withoutParentheses ls = ls := by
  induction h with
  | nil => exact ⟨rfl, rfl⟩
  | entity _ _ ih => simpa [withoutParentheses, TokenKind.isParenthesis] using ih
  | operand left right _ ih =>
    cases left <;> cases right <;> simpa [withoutParentheses, TokenKind.isParenthesis] using ih
  | keyword _ _ ih => simpa [withoutParentheses, TokenKind.isParenthesis] using ih

end Filter

theorem ComparisonText.respelled {ks : List TokenKind} {c : Comparison} (h : ComparisonText ks c) :
    Respelled ks c.kinds := by
  obtain @⟨_, vs, _, _, entity, tag, _, value⟩ := h
  have hvalue : Respelled vs (Comparison.valueKinds c.value) := by
    generalize c.value = v at value
    cases value with
    | absent => exact .nil
    | present _ operand => exact .operand operand (operandText_operandKind _) .nil
  have htag := Respelled.operand tag (operandText_operandKind c.tag)
    (.keyword (.comparison c.operator) hvalue)
  rw [Comparison.kinds]
  generalize c.entity = entity? at entity
  cases entity with
  | absent => exact htag
  | present spelled =>
    refine .entity ?_ htag
    rw [Text.equalsIgnoringCase, beq_iff_eq] at spelled ⊢
    exact spelled.symm

theorem Derives.respelled {tier : Tier} {n : Nat} {ks : List TokenKind} {e : Expression}
    (h : Derives tier n ks e) : Respelled (withoutParentheses ks) (withoutParentheses e.kinds) := by
  induction h with
  | operand _ ih => exact ih
  | join _ _ ihl ihr =>
    simp only [kinds, withoutParentheses_append, withoutParentheses_keyword,
      withoutParentheses_parenthesizedIf]
    exact ihl.append (.keyword _ ihr)
  | negation _ ih =>
    simp only [kinds, withoutParentheses_keyword, withoutParentheses_parenthesizedIf]
    exact .keyword _ ih
  | primary _ ih => exact ih
  | parenthesized _ ih =>
    rw [← parenthesizedKinds, withoutParentheses_parenthesizedKinds]
    exact ih
  | comparison h =>
    obtain ⟨hk, hc⟩ := withoutParentheses_of_respelled h.respelled
    rw [hk, kinds, hc]
    exact h.respelled

def around : Tier → Expression → Nat
  | .chain op, e => if e.bindsLooser op then 1 else 0
  | .unary, e => if e.isLogical then 1 else 0
  | .primary, e => if e.isLogical then 1 else 0

def countOpen (ks : List TokenKind) : Nat := ks.count .openParenthesis

section Counting

variable {ks ls : List TokenKind} {tier : Tier} {op : LogicalOperator} {e : Expression}

theorem countOpen_append : countOpen (ks ++ ls) = countOpen ks + countOpen ls := List.count_append

theorem countOpen_open : countOpen (.openParenthesis :: ks) = countOpen ks + 1 :=
  List.count_cons_self

theorem countOpen_close : countOpen (.closeParenthesis :: ks) = countOpen ks :=
  List.count_cons_of_ne (by decide)

theorem countOpen_keyword (keyword : Keyword) :
    countOpen (.keyword keyword :: ks) = countOpen ks :=
  List.count_cons_of_ne (by simp)

theorem countOpen_parenthesizedKinds :
    countOpen (parenthesizedKinds ks) = countOpen ks + 1 := by
  rw [parenthesizedKinds, countOpen_open, countOpen_append, countOpen_close]
  rfl

theorem countOpen_parenthesizedIf (condition : Bool) :
    countOpen (if condition then parenthesizedKinds ks else ks) =
      countOpen ks + if condition then 1 else 0 := by
  cases condition with
  | false => rfl
  | true => exact countOpen_parenthesizedKinds

theorem countOpen_comparison (c : Comparison) : countOpen c.kinds = 0 := by
  have operand (text : String) : operandKind text ≠ .openParenthesis := by
    unfold operandKind
    split <;> simp
  simp only [countOpen, List.count_eq_zero, Comparison.kinds, Comparison.entityKinds,
    Comparison.valueKinds]
  cases c.entity <;> cases c.value <;> simp [(operand _).symm]

theorem around_le_one (tier : Tier) (e : Expression) : e.around tier ≤ 1 := by
  cases tier <;> simp only [around] <;> split <;> omega

theorem around_chain_le_operand (op : LogicalOperator) (e : Expression) :
    e.around (.chain op) ≤ e.around (.operand op) := by
  cases op with
  | conjunction =>
    simp only [around, Tier.operand, bindsLooser_eq, isLogical_eq]
    cases e.hasRoot .conjunction <;> cases e.hasRoot .disjunction <;> simp
  | disjunction => simp [around, bindsLooser_eq]

theorem around_logical (op : LogicalOperator) (l r : Expression) :
    (logical op l r).around (.chain op) = 0 := by
  cases op <;> rfl

theorem countOpen_kinds_logical (op : LogicalOperator) (l r : Expression) :
    countOpen (logical op l r).kinds =
      countOpen l.kinds + l.around (.chain op) + (countOpen r.kinds + r.around (.chain op)) := by
  simp only [kinds, countOpen_append, countOpen_keyword, countOpen_parenthesizedIf, around]

theorem countOpen_kinds_negation (e : Expression) :
    countOpen (negation e).kinds = countOpen e.kinds + e.around .unary := by
  simp only [kinds, countOpen_keyword, countOpen_parenthesizedIf, around]

end Counting

theorem Derives.countOpen_kinds_le {tier : Tier} {n : Nat} {ks : List TokenKind} {e : Expression}
    (h : Derives tier n ks e) : countOpen e.kinds + e.around tier ≤ countOpen ks := by
  induction h with
  | @operand op _ _ e _ ih =>
    have := around_chain_le_operand op e
    omega
  | @join op _ _ _ _ l r _ _ ihl ihr =>
    have := around_chain_le_operand op r
    rw [countOpen_kinds_logical, around_logical, countOpen_append, countOpen_keyword]
    omega
  | @negation _ _ e _ ih =>
    rw [countOpen_kinds_negation, countOpen_keyword]
    exact ih
  | primary _ ih => exact ih
  | @parenthesized _ _ e _ ih =>
    have := around_le_one .primary e
    rw [countOpen_open, countOpen_append, countOpen_close]
    omega
  | comparison h =>
    rw [kinds, countOpen_comparison]
    exact Nat.zero_le _

theorem Derives.countOpen_le {n : Nat} {ks : List TokenKind} {e : Expression}
    (h : Derives (.chain .disjunction) n ks e) : countOpen e.kinds ≤ countOpen ks :=
  Nat.le_trans (Nat.le_add_right _ _) h.countOpen_kinds_le

theorem exists_derives_of_parse {text : String} {e : Expression} {ts : List Token}
    (hp : parse text = .ok e) (ht : Token.tokenize text = .ok ts) :
    ∃ n, Derives (.chain .disjunction) n (ts.map Token.kind) e := by
  rw [parse, ht] at hp
  obtain ⟨⟨n, _, hd⟩, _⟩ := derives_of_ofTokens (by decide) hp
  exact ⟨n, hd⟩

theorem eq_leftGrouped_of_parse_render {e f : Expression} (hw : e.WellFormed)
    (hp : parse e.render = .ok f) : f = e.leftGrouped := by
  rcases parse_render_cases hw with h | ⟨_, position, h⟩
  · exact Except.ok.inj (hp.symm.trans h)
  · cases hp.symm.trans h

theorem kinds_of_tokenize_render {e : Expression} {ts : List Token}
    (h : Token.tokenize e.render = .ok ts) : ts.map Token.kind = e.kinds := by
  obtain ⟨us, hu, hk⟩ := e.lexAs_chars.tokenize
  cases h.symm.trans hu
  exact hk

/-- Normalizing a text keeps its tokens but for parentheses, up to quoting and the case of words.
Of the parentheses in a canonical text none can go: without any one of them and any one that closes,
the tokens are not read as the tree of the text. -/
theorem parentheses_of_normalize :
    (∀ text e ts, parse text = .ok e → Token.tokenize text = .ok ts →
      ∃ us, Token.tokenize e.render = .ok us ∧
        Respelled (withoutParentheses (ts.map Token.kind))
          (withoutParentheses (us.map Token.kind))) ∧
    ∀ (e f : Expression) (before inside behind : List Token) (opening closing : Token) (stop : Nat),
      e.WellFormed → parse e.render = .ok f →
      Token.tokenize e.render = .ok (before ++ opening :: (inside ++ closing :: behind)) →
      opening.kind = .openParenthesis → closing.kind = .closeParenthesis →
      ofTokens maxNesting stop (before ++ (inside ++ behind)) ≠ .ok f := by
  constructor
  · intro text e ts hp ht
    obtain ⟨us, hu, hk⟩ := e.lexAs_chars.tokenize
    obtain ⟨n, hd⟩ := exists_derives_of_parse hp ht
    exact ⟨us, hu, hk ▸ hd.respelled⟩
  · intro e f before inside behind opening closing stop hw hp ht hopen hclose hf
    rw [← render_leftGrouped, ← eq_leftGrouped_of_parse_render hw hp] at ht
    obtain ⟨⟨n, _, hd⟩, _⟩ := derives_of_ofTokens (by decide) hf
    have hle := hd.countOpen_le
    rw [← kinds_of_tokenize_render ht] at hle
    simp only [List.map_append, List.map_cons, hopen, hclose, countOpen_append, countOpen_open,
      countOpen_close] at hle
    omega

def guardedAlternatives : Expression :=
  .negation (.logical .disjunction (.comparison ⟨none, "zone", .isEmpty, none⟩)
    (.comparison ⟨some .source, "zone", .equals, some "eu west"⟩))

def groupedChain : Expression :=
  .logical .conjunction (.comparison ⟨none, "zone", .isBlank, none⟩)
    (.logical .conjunction (.comparison ⟨none, "zone", .isEmpty, none⟩) guardedAlternatives)

theorem parentheses_of_groupedChain :
    (∃ ts us, Token.tokenize (String.ofList groupedChain.parenthesizedChars) = .ok ts ∧
      Token.tokenize groupedChain.render = .ok us ∧ us.length + 2 = ts.length ∧
      Respelled (withoutParentheses (ts.map Token.kind)) (withoutParentheses (us.map Token.kind))) ∧
    ofTokens maxNesting 48
      [⟨.keyword .negation, "not", 0⟩, ⟨.word "zone", "zone", 5⟩,
        ⟨.keyword (.comparison .isEmpty), "is_empty", 10⟩,
        ⟨.keyword (.logical .disjunction), "or", 19⟩, ⟨.word "src", "src", 22⟩, ⟨.colon, ":", 25⟩,
        ⟨.word "zone", "zone", 26⟩, ⟨.keyword (.comparison .equals), "equals", 31⟩,
        ⟨.quoted "eu west", "'eu west'", 38⟩] ≠ .ok guardedAlternatives := by
  obtain ⟨keeps, minimal⟩ := parentheses_of_normalize
  constructor
  · have hp : parse (String.ofList groupedChain.parenthesizedChars) = .ok groupedChain :=
      parse_parenthesizedChars (by decide) (by decide)
    obtain ⟨ts, ht, _⟩ := Result.bind_eq_ok_iff.mp hp
    obtain ⟨us, hu, hk⟩ := keeps _ _ ts hp ht
    refine ⟨ts, us, ht, hu, ?_, hk⟩
    have hlength : (Token.tokenize (String.ofList groupedChain.parenthesizedChars)).map
        List.length = .ok 19 := by decide +kernel
    have hlength' : (Token.tokenize groupedChain.render).map List.length = .ok 17 := by
      decide +kernel
    rw [ht] at hlength
    rw [hu] at hlength'
    rw [show ts.length = 19 from Except.ok.inj hlength,
      show us.length = 17 from Except.ok.inj hlength']
  · have hw : guardedAlternatives.WellFormed := by decide
    have hp : parse guardedAlternatives.render = .ok guardedAlternatives :=
      parse_render_of_isLeftGrouped hw ⟨trivial, trivial, rfl⟩ (by decide)
    apply minimal guardedAlternatives guardedAlternatives [⟨.keyword .negation, "not", 0⟩]
      [⟨.word "zone", "zone", 5⟩, ⟨.keyword (.comparison .isEmpty), "is_empty", 10⟩,
        ⟨.keyword (.logical .disjunction), "or", 19⟩, ⟨.word "src", "src", 22⟩, ⟨.colon, ":", 25⟩,
        ⟨.word "zone", "zone", 26⟩, ⟨.keyword (.comparison .equals), "equals", 31⟩,
        ⟨.quoted "eu west", "'eu west'", 38⟩] []
      ⟨.openParenthesis, "(", 4⟩ ⟨.closeParenthesis, ")", 47⟩ 48 hw hp
    · decide +kernel
    · rfl
    · rfl

end Expression

end Monitoring
