import Monitoring.Proofs.Expression.Soundness

/-!
What the grammar derives is read, unless it is nested too deep, and then nothing else is wrong.
With soundness the parser accepts exactly the grammar within its limits. The limit is arbitrary, so
that two derivations of one list of tokens can be read under a limit that both keep.
-/

namespace Monitoring.Expression

variable {limit stop room : Nat}

def reader (limit stop room : Nat) : Tier → Reader
  | .chain .disjunction => readLogical limit (readUnary limit stop room)
  | .chain .conjunction => readChain limit .conjunction (readUnary limit stop room)
  | .unary => readUnary limit stop room
  | .primary => readUnary limit stop room

def resume (limit stop room : Nat) (tier : Tier) {ts : List Token} (r : Reading ts) :
    Except ParseError (Reading ts) :=
  match tier with
  | .chain op => readFurther limit op (reader limit stop room (.operand op)) r
  | .unary => .ok r
  | .primary => .ok r

def Tier.EndsBefore : Tier → List Token → Prop
  | chain op, rest => ∀ t more, rest = t :: more → t.kind ≠ .keyword (.logical op)
  | unary, _ => True
  | primary, _ => True

def ExpectedUnless {α : Type} (deep : Prop) (result expected : Except ParseError α) : Prop :=
  result = expected ∨ deep ∧ ∃ position, result = .error ⟨.nestingTooDeep, position⟩

theorem reader_chain (operator : LogicalOperator) :
    reader limit stop room (.chain operator) =
      readChain limit operator (reader limit stop room (.operand operator)) := by
  cases operator <;> rfl

theorem readFurther_of_endsBefore {operator : LogicalOperator} {operand : Reader}
    {ts : List Token} {left : Reading ts} (h : (Tier.chain operator).EndsBefore left.rest) :
    readFurther limit operator operand left = .ok left := by
  unfold readFurther
  split
  case h_1 => rfl
  case h_2 t more hr => rw [if_neg (h t more hr)]

theorem resume_of_endsBefore {tier : Tier} {ts : List Token} {r : Reading ts}
    (h : tier.EndsBefore r.rest) : resume limit stop room tier r = .ok r := by
  cases tier with
  | chain operator => exact readFurther_of_endsBefore h
  | unary => rfl
  | primary => rfl

theorem readFurther_eq_error {operator : LogicalOperator} {operand : Reader} {t : Token}
    {ts more : List Token} {left : Reading ts} {e : ParseError} (hr : left.rest = t :: more)
    (hk : t.kind = .keyword (.logical operator)) (ho : operand more = .error e) :
    readFurther limit operator operand left = .error e := by
  unfold readFurther
  split
  case h_1 h => cases hr.symm.trans h
  case h_2 h => cases hr.symm.trans h; rw [if_pos hk, ho]

theorem readFurther_join {operator : LogicalOperator} {operand : Reader} {t : Token}
    {ts more : List Token} {right : Reading more} (left joined : Reading ts)
    (hr : left.rest = t :: more) (hk : t.kind = .keyword (.logical operator))
    (ho : operand more = .ok right)
    (he : joined.expression = .logical operator left.expression right.expression)
    (hh : joined.height = max left.height right.height + 1) (hj : joined.rest = right.rest) :
    readFurther limit operator operand left =
      if limit < joined.height then .error ⟨.nestingTooDeep, t.offset⟩
      else readFurther limit operator operand joined := by
  obtain ⟨_, _, _, _⟩ := joined
  cases he
  cases hh
  cases hj
  rw [readFurther]
  split
  case h_1 h => cases hr.symm.trans h
  case h_2 h => cases hr.symm.trans h; rw [if_pos hk, ho]

theorem readUnary_negation {t : Token} {ts : List Token} (h : t.kind = .keyword .negation) :
    readUnary limit stop (room + 1) (t :: ts) = (do
      let operand ← readUnary limit stop room ts
      let negated ← negate limit t.offset operand
      return negated.after t) := by
  rw [readUnary]
  split <;> simp_all

theorem readUnary_parenthesis {t : Token} {ts : List Token} (h : t.kind = .openParenthesis) :
    readUnary limit stop (room + 1) (t :: ts) = (do
      let inner ← readLogical limit (readUnary limit stop room) ts
      let closed ← closeParenthesis stop inner
      return closed.after t) := by
  rw [readUnary]
  split <;> simp_all

theorem readUnary_full {t : Token} {ts : List Token}
    (h : t.kind = .keyword .negation ∨ t.kind = .openParenthesis) :
    readUnary limit stop 0 (t :: ts) = .error ⟨.nestingTooDeep, t.offset⟩ := by
  unfold readUnary
  split <;> simp_all

theorem readUnary_operand {t : Token} {ts : List Token} {text : String}
    (h : OperandText t.kind text) :
    readUnary limit stop room (t :: ts) = readComparison stop (t :: ts) := by
  unfold readUnary
  generalize t.kind = kind at h ⊢
  cases h <;> rfl

/-- Tokens of the given kinds are read as `e` on a level whatever follows, unless more than the
room is open around one of them or `e` is too high. Behind a disjunction no conjunction goes on. -/
def ReadAs (limit stop : Nat) (tier : Tier) (n : Nat) (ks : List TokenKind) (e : Expression) :
    Prop :=
  ∀ (room : Nat) {ts taken rest : List Token}, ts = taken ++ rest → taken.map Token.kind = ks →
    (tier = .chain .disjunction → (Tier.chain .conjunction).EndsBefore rest) →
    ∃ shorter, ExpectedUnless (room < n ∨ limit < e.height) (reader limit stop room tier ts)
      (resume limit stop room tier (⟨e, e.height, rest, shorter⟩ : Reading ts))

theorem operand_ne_disjunction (operator : LogicalOperator) :
    Tier.operand operator ≠ .chain .disjunction := by
  cases operator <;> simp [Tier.operand]

theorem operand_endsBefore {operator : LogicalOperator} {rest : List Token}
    (h : Tier.chain operator = .chain .disjunction → (Tier.chain .conjunction).EndsBefore rest) :
    (Tier.operand operator).EndsBefore rest := by
  cases operator with
  | conjunction => trivial
  | disjunction => exact h rfl

theorem ReadAs.whole {tier : Tier} {n : Nat} {ks : List TokenKind} {e : Expression}
    (h : ReadAs limit stop tier n ks e) (room : Nat) {ts taken rest : List Token}
    (hts : ts = taken ++ rest) (hk : taken.map Token.kind = ks)
    (hc : tier = .chain .disjunction → (Tier.chain .conjunction).EndsBefore rest)
    (he : tier.EndsBefore rest) :
    ∃ shorter, ExpectedUnless (room < n ∨ limit < e.height) (reader limit stop room tier ts)
      (.ok ⟨e, e.height, rest, shorter⟩) := by
  obtain ⟨shorter, hr⟩ := h room hts hk hc
  rw [resume_of_endsBefore he] at hr
  exact ⟨shorter, hr⟩

theorem ReadAs.chain {operator : LogicalOperator} {n : Nat} {ks : List TokenKind} {e : Expression}
    (h : ReadAs limit stop (.operand operator) n ks e) :
    ReadAs limit stop (.chain operator) n ks e := by
  intro room ts taken rest hts hk hc
  obtain ⟨shorter, hr⟩ := h.whole room hts hk (absurd · (operand_ne_disjunction operator))
    (operand_endsBefore hc)
  refine ⟨shorter, ?_⟩
  rw [reader_chain, readChain]
  rcases hr with hr | ⟨deep, position, hr⟩
  · rw [hr]
    exact .inl rfl
  · rw [hr]
    exact .inr ⟨deep, position, rfl⟩

theorem ReadAs.join {operator : LogicalOperator} {n m : Nat} {ks ls : List TokenKind}
    {l r : Expression} (hl : ReadAs limit stop (.chain operator) n ks l)
    (hr : ReadAs limit stop (.operand operator) m ls r) :
    ReadAs limit stop (.chain operator) (max n m) (ks ++ .keyword (.logical operator) :: ls)
      (.logical operator l r) := by
  intro room ts taken rest hts hk hc
  obtain ⟨before, _, rfl, hbefore, hk⟩ := List.map_eq_append_iff.mp hk
  obtain ⟨t, after, rfl, ht, hafter⟩ := List.map_eq_cons_iff.mp hk
  have hts : ts = before ++ t :: (after ++ rest) := by simpa using hts
  have shorter : rest.length < ts.length := by
    rw [hts]
    simp only [List.length_append, List.length_cons]
    omega
  obtain ⟨hleft, hl⟩ := hl room hts hbefore (by
    rintro ⟨⟩ _ _ ⟨⟩
    simp [ht])
  obtain ⟨_, hr⟩ := hr.whole room rfl hafter (absurd · (operand_ne_disjunction operator))
    (operand_endsBefore hc)
  refine ⟨shorter, ?_⟩
  rcases hl with hl | ⟨deep, position, hl⟩
  · rw [hl]
    rcases hr with hr | ⟨deep, position, hr⟩
    · let left : Reading ts := ⟨l, l.height, t :: (after ++ rest), hleft⟩
      let joined : Reading ts := ⟨.logical operator l r, max l.height r.height + 1, rest, shorter⟩
      have hj : resume limit stop room (.chain operator) left =
          if limit < joined.height then .error ⟨.nestingTooDeep, t.offset⟩
          else resume limit stop room (.chain operator) joined :=
        readFurther_join left joined rfl ht hr rfl rfl rfl
      by_cases high : limit < (logical operator l r).height
      · exact .inr ⟨.inr high, t.offset, hj.trans (if_pos high)⟩
      · exact .inl (hj.trans (if_neg high))
    · refine .inr ⟨?_, position, readFurther_eq_error rfl ht hr⟩
      simp only [height]
      omega
  · refine .inr ⟨?_, position, hl⟩
    simp only [height]
    omega

theorem ReadAs.negation {n : Nat} {ks : List TokenKind} {e : Expression}
    (h : ReadAs limit stop .unary n ks e) :
    ReadAs limit stop .unary (n + 1) (.keyword .negation :: ks) (.negation e) := by
  intro room ts taken rest hts hk hc
  obtain ⟨t, operand, rfl, ht, hoperand⟩ := List.map_eq_cons_iff.mp hk
  obtain rfl : ts = t :: (operand ++ rest) := by simpa using hts
  refine ⟨by simp only [List.length_append, List.length_cons]; omega, ?_⟩
  cases room with
  | zero => exact .inr ⟨.inl (Nat.succ_pos n), t.offset, readUnary_full (.inl ht)⟩
  | succ room =>
    obtain ⟨_, hr⟩ := h.whole room rfl hoperand (nomatch ·) trivial
    rw [reader] at hr ⊢
    rw [readUnary_negation ht]
    rcases hr with hr | ⟨deep, position, hr⟩
    · rw [hr]
      by_cases high : limit < e.height + 1
      · refine .inr ⟨.inr high, t.offset, ?_⟩
        simp [negate, high, bind, Except.bind]
      · refine .inl ?_
        simp [negate, high, bind, Except.bind, pure, Except.pure, Reading.after, resume, height]
    · rw [hr]
      refine .inr ⟨?_, position, rfl⟩
      simp only [height]
      omega

theorem ReadAs.parenthesized {n : Nat} {ks : List TokenKind} {e : Expression}
    (h : ReadAs limit stop (.chain .disjunction) n ks e) :
    ReadAs limit stop .primary (n + 1) (.openParenthesis :: (ks ++ [.closeParenthesis])) e := by
  intro room ts taken rest hts hk hc
  obtain ⟨t, _, rfl, ht, hk⟩ := List.map_eq_cons_iff.mp hk
  obtain ⟨inner, _, rfl, hinner, hk⟩ := List.map_eq_append_iff.mp hk
  obtain ⟨close, _, rfl, hclose, hk⟩ := List.map_eq_cons_iff.mp hk
  obtain rfl := List.map_eq_nil_iff.mp hk
  obtain rfl : ts = t :: (inner ++ close :: rest) := by simpa using hts
  refine ⟨by simp only [List.length_append, List.length_cons]; omega, ?_⟩
  cases room with
  | zero => exact .inr ⟨.inl (Nat.succ_pos n), t.offset, readUnary_full (.inr ht)⟩
  | succ room =>
    have closes (operator : LogicalOperator) :
        (Tier.chain operator).EndsBefore (close :: rest) := by
      rintro _ _ ⟨⟩
      simp [hclose]
    obtain ⟨_, hr⟩ := h.whole room rfl hinner (fun _ => closes _) (closes _)
    simp only [reader] at hr ⊢
    rw [readUnary_parenthesis ht]
    rcases hr with hr | ⟨deep, position, hr⟩
    · rw [hr]
      refine .inl ?_
      simp [closeParenthesis, hclose, bind, Except.bind, pure, Except.pure, Reading.after, resume]
    · rw [hr]
      refine .inr ⟨?_, position, rfl⟩
      omega

theorem ReadAs.primary {n : Nat} {ks : List TokenKind} {e : Expression}
    (h : ReadAs limit stop .primary n ks e) : ReadAs limit stop .unary n ks e := by
  intro room ts taken rest hts hk hc
  exact h room hts hk (nomatch ·)

theorem ComparisonText.starts {ks : List TokenKind} {c : Comparison} (h : ComparisonText ks c) :
    ∃ kind text more, ks = kind :: more ∧ OperandText kind text := by
  obtain ⟨entity, tag, _, _⟩ := h
  generalize c.entity = entity? at entity
  cases entity with
  | absent => exact ⟨_, _, _, rfl, tag⟩
  | present spelled => exact ⟨_, _, _, rfl, .word _⟩

theorem ReadAs.comparison {ks : List TokenKind} {c : Comparison} (h : ComparisonText ks c) :
    ReadAs limit stop .primary 0 ks (.comparison c) := by
  intro room ts taken rest hts hk hc
  subst hk
  obtain ⟨shorter, hr⟩ := readComparison_of_comparisonText stop hts h
  obtain ⟨kind, text, more, hk, operand⟩ := h.starts
  obtain ⟨t, after, rfl, rfl, rfl⟩ := List.map_eq_cons_iff.mp hk
  refine ⟨shorter, .inl ?_⟩
  rw [resume, height, ← hr, reader]
  subst hts
  exact readUnary_operand operand

theorem Derives.readAs {tier : Tier} {n : Nat} {ks : List TokenKind} {e : Expression}
    (h : Derives tier n ks e) : ReadAs limit stop tier n ks e := by
  induction h with
  | operand _ ih => exact ih.chain
  | join _ _ ihl ihr => exact ihl.join ihr
  | negation _ ih => exact ih.negation
  | primary _ ih => exact ih.primary
  | parenthesized _ ih => exact ih.parenthesized
  | comparison h => exact .comparison h

theorem ofTokens_of_derives {n : Nat} {ts : List Token} {e : Expression}
    (h : Derives (.chain .disjunction) n (ts.map Token.kind) e) :
    ExpectedUnless (limit < n ∨ limit < e.height) (ofTokens limit stop ts) (.ok e) := by
  have ends (operator : LogicalOperator) : (Tier.chain operator).EndsBefore [] := nofun
  obtain ⟨_, hr⟩ := h.readAs.whole limit (List.append_nil ts).symm rfl (fun _ => ends _) (ends _)
  have hts : ts ≠ [] := fun hts => h.ne_nil (hts ▸ rfl)
  unfold ofTokens
  rw [if_neg (by simpa using hts)]
  simp only [reader] at hr
  rcases hr with hr | ⟨deep, position, hr⟩
  · rw [hr]
    exact .inl rfl
  · rw [hr]
    exact .inr ⟨deep, position, rfl⟩

theorem ofTokens_eq_ok_iff {ts : List Token} {e : Expression} (hl : 0 < limit) :
    ofTokens limit stop ts = .ok e ↔
      (∃ n ≤ limit, Derives (.chain .disjunction) n (ts.map Token.kind) e) ∧ e.height ≤ limit := by
  constructor
  · exact derives_of_ofTokens hl
  · rintro ⟨⟨n, hn, hd⟩, hh⟩
    rcases ofTokens_of_derives hd with h | ⟨deep, _, _⟩
    · exact h
    · omega

theorem Derives.unique {n m : Nat} {ks : List TokenKind} {e f : Expression}
    (he : Derives (.chain .disjunction) n ks e) (hf : Derives (.chain .disjunction) m ks f) :
    e = f := by
  -- both derivations are read under a limit that neither of them exceeds
  let ts := ks.map fun k => (⟨k, "", 0⟩ : Token)
  have hk : ts.map Token.kind = ks := by simp [ts, Function.comp_def]
  let limit := max (max n m) (max e.height f.height)
  have hl : 0 < limit := by
    have := e.height_pos
    omega
  have hte : ofTokens limit 0 ts = .ok e :=
    (ofTokens_eq_ok_iff hl).mpr ⟨⟨n, by omega, hk.symm ▸ he⟩, by omega⟩
  have htf : ofTokens limit 0 ts = .ok f :=
    (ofTokens_eq_ok_iff hl).mpr ⟨⟨m, by omega, hk.symm ▸ hf⟩, by omega⟩
  exact Except.ok.inj (hte.symm.trans htf)

/-- The parser accepts exactly its grammar, with at most `maxNesting` parentheses and NOTs open
around any token and trees of at most that height; the grammar is unambiguous, whatever the
nesting. -/
theorem parse_eq_ok_iff_derives :
    (∀ text e, parse text = .ok e ↔
      ∃ ts, Token.tokenize text = .ok ts ∧
        (∃ n ≤ ParseErrorKind.maxNesting, Derives (.chain .disjunction) n (ts.map Token.kind) e) ∧
        e.height ≤ ParseErrorKind.maxNesting) ∧
    ∀ ks n m e f, Derives (.chain .disjunction) n ks e → Derives (.chain .disjunction) m ks f →
      e = f := by
  have hl : 0 < ParseErrorKind.maxNesting := by decide
  refine ⟨fun text e => ?_, fun ks n m e f => Derives.unique⟩
  rw [parse, Result.bind_eq_ok_iff]
  simp only [ofTokens_eq_ok_iff hl]

end Monitoring.Expression
