import Monitoring.Proofs.Expression.Grammar
import Monitoring.Proofs.Result

namespace Monitoring

theorem Entity.ofKeyword?_eq_some_iff {word : String} {entity : Entity} :
    ofKeyword? word = some entity ↔ Text.equalsIgnoringCase entity.keyword word = true := by
  simp only [ofKeyword?, all, Text.equalsIgnoringCase, beq_iff_eq, List.find?_cons]
  generalize word.toList.map Char.toLower = w
  have source : (Entity.keyword .source).toList.map Char.toLower = ['s', 'r', 'c'] := by decide
  have destination : (Entity.keyword .destination).toList.map Char.toLower =
      ['d', 'e', 's', 't'] := by decide
  have notApplicable : (Entity.keyword .notApplicable).toList.map Char.toLower =
      ['n', 'a'] := by decide
  cases entity <;> grind

namespace Expression

variable {limit stop room : Nat}

theorem operandText?_eq_some_iff {kind : TokenKind} {text : String} :
    operandText? kind = some text ↔ OperandText kind text := by
  constructor
  · intro h
    unfold operandText? at h
    split at h <;> cases h <;> constructor
  · intro h
    cases h <;> rfl

theorem readEntity_eq_none_iff {ts rest : List Token} :
    readEntity ts = .ok (none, rest) ↔
      rest = ts ∧ ∀ first second more, ts = first :: second :: more → second.kind ≠ .colon := by
  unfold readEntity
  grind

theorem readEntity_eq_some_iff {ts rest : List Token} {entity : Entity} :
    readEntity ts = .ok (some entity, rest) ↔
      ∃ taken, ts = taken ++ rest ∧ EntityText (taken.map Token.kind) (some entity) := by
  constructor
  · intro h
    unfold readEntity at h
    split at h
    case h_1 first second more =>
      split at h
      case isTrue colon =>
        split at h
        case h_1 word hw =>
          split at h
          case h_1 found =>
            cases h
            refine ⟨[first, second], rfl, ?_⟩
            simp only [List.map_cons, List.map_nil, hw, colon]
            exact .present (Entity.ofKeyword?_eq_some_iff.mp found)
          case h_2 => cases h
        case h_2 => cases h
      case isFalse => cases h
    case h_2 => cases h
  · rintro ⟨taken, rfl, h⟩
    generalize hk : taken.map Token.kind = ks at h
    cases h with
    | present spelled =>
      obtain ⟨w, _, rfl, word, hk⟩ := List.map_eq_cons_iff.mp hk
      obtain ⟨c, _, rfl, colon, hk⟩ := List.map_eq_cons_iff.mp hk
      obtain rfl := List.map_eq_nil_iff.mp hk
      simp [readEntity, word, colon, Entity.ofKeyword?_eq_some_iff.mpr spelled]

theorem readTag_eq_ok_iff {ts rest : List Token} {tag : String} :
    readTag stop ts = .ok (tag, rest) ↔
      ∃ t, ts = t :: rest ∧ OperandText t.kind tag ∧ Text.isBlank tag = false := by
  constructor
  · intro h
    unfold readTag at h
    split at h
    case h_1 => cases h
    case h_2 t more =>
      split at h
      case h_1 => cases h
      case h_2 text operand =>
        split at h
        case isTrue => cases h
        case isFalse filled =>
          cases h
          exact ⟨t, rfl, operandText?_eq_some_iff.mp operand, by simpa using filled⟩
  · rintro ⟨t, rfl, operand, filled⟩
    simp [readTag, operandText?_eq_some_iff.mpr operand, filled]

theorem readOperator_eq_ok_iff {tag : String} {ts rest : List Token}
    {operator : ComparisonOperator} :
    readOperator stop tag ts = .ok (operator, rest) ↔
      ∃ t, ts = t :: rest ∧ t.kind = .keyword (.comparison operator) := by
  constructor
  · intro h
    unfold readOperator at h
    split at h
    case h_1 => cases h
    case h_2 t more =>
      split at h
      case h_1 op keyword => cases h; exact ⟨t, rfl, keyword⟩
      case h_2 => cases h
      case h_3 => cases h
  · rintro ⟨t, rfl, keyword⟩
    simp [readOperator, keyword]

theorem readValue_eq_ok_iff {operator : ComparisonOperator} {ts rest : List Token}
    {value : Option String} :
    readValue stop operator ts = .ok (value, rest) ↔
      ∃ taken, ts = taken ++ rest ∧ ValueText operator (taken.map Token.kind) value := by
  constructor
  · intro h
    unfold readValue at h
    split at h
    case isTrue unary => cases h; exact ⟨[], rfl, .absent unary⟩
    case isFalse binary =>
      split at h
      case h_1 => cases h
      case h_2 t more =>
        split at h
        case h_1 => cases h
        case h_2 text operand =>
          cases h
          exact ⟨[t], rfl, .present (by simpa using binary) (operandText?_eq_some_iff.mp operand)⟩
  · rintro ⟨taken, rfl, h⟩
    generalize hk : taken.map Token.kind = ks at h
    cases h with
    | absent unary =>
      obtain rfl := List.map_eq_nil_iff.mp hk
      simp [readValue, unary]
    | present binary operand =>
      obtain ⟨t, _, rfl, ht, hn⟩ := List.map_eq_cons_iff.mp hk
      obtain rfl := List.map_eq_nil_iff.mp hn
      simp [readValue, binary, ht, operandText?_eq_some_iff.mpr operand]

theorem readEntity_of_entityText {es rest : List Token} {entity : Option Entity}
    (h : EntityText (es.map Token.kind) entity)
    (hr : ∀ first second more, rest = first :: second :: more → second.kind ≠ .colon) :
    readEntity (es ++ rest) = .ok (entity, rest) := by
  cases entity with
  | none =>
    generalize hk : es.map Token.kind = ks at h
    cases h
    obtain rfl := List.map_eq_nil_iff.mp hk
    exact readEntity_eq_none_iff.mpr ⟨rfl, hr⟩
  | some entity => exact readEntity_eq_some_iff.mpr ⟨es, rfl, h⟩

theorem entityText_of_readEntity {ts rest : List Token} {entity : Option Entity}
    (h : readEntity ts = .ok (entity, rest)) :
    ∃ taken, ts = taken ++ rest ∧ EntityText (taken.map Token.kind) entity := by
  cases entity with
  | none => exact ⟨[], (readEntity_eq_none_iff.mp h).1.symm, .absent⟩
  | some entity => exact readEntity_eq_some_iff.mp h

theorem comparisonText_of_readComparison {ts : List Token} {r : Reading ts}
    (h : readComparison stop ts = .ok r) :
    ∃ taken c, ts = taken ++ r.rest ∧ ComparisonText (taken.map Token.kind) c ∧
      r.expression = .comparison c ∧ r.height = 1 := by
  unfold readComparison at h
  split at h
  case h_1 => cases h
  case h_2 entity afterEntity he =>
    split at h
    case h_1 => cases h
    case h_2 tag afterTag ht =>
      split at h
      case h_1 => cases h
      case h_2 operator afterOperator ho =>
        split at h
        case h_1 => cases h
        case h_2 value rest hv =>
          cases h
          obtain ⟨es, rfl, hes⟩ := entityText_of_readEntity he
          obtain ⟨t, rfl, operand, filled⟩ := readTag_eq_ok_iff.mp ht
          obtain ⟨o, rfl, keyword⟩ := readOperator_eq_ok_iff.mp ho
          obtain ⟨vs, rfl, hvs⟩ := readValue_eq_ok_iff.mp hv
          refine ⟨es ++ t :: o :: vs, ⟨entity, tag, operator, value⟩, by simp, ?_, rfl, rfl⟩
          simp only [List.map_append, List.map_cons, keyword]
          exact @ComparisonText.intro _ _ _ ⟨entity, tag, operator, value⟩ hes operand filled hvs

theorem readComparison_of_comparisonText (stop : Nat) {ts taken rest : List Token}
    {c : Comparison} (hts : ts = taken ++ rest) (h : ComparisonText (taken.map Token.kind) c) :
    ∃ shorter, readComparison stop ts = .ok ⟨.comparison c, 1, rest, shorter⟩ := by
  generalize hk : taken.map Token.kind = ks at h
  obtain ⟨hes, operand, filled, hvs⟩ := h
  obtain ⟨es, us, rfl, rfl, hus⟩ := List.map_eq_append_iff.mp hk
  obtain ⟨t, os, rfl, rfl, hos⟩ := List.map_eq_cons_iff.mp hus
  obtain ⟨o, vs, rfl, keyword, rfl⟩ := List.map_eq_cons_iff.mp hos
  have he : readEntity ts = .ok (c.entity, t :: o :: (vs ++ rest)) := by
    rw [hts, List.append_assoc]
    apply readEntity_of_entityText hes
    rintro _ _ _ ⟨⟩
    simp [keyword]
  have ht : readTag stop (t :: o :: (vs ++ rest)) = .ok (c.tag, o :: (vs ++ rest)) :=
    readTag_eq_ok_iff.mpr ⟨t, rfl, operand, filled⟩
  have ho : readOperator stop c.tag (o :: (vs ++ rest)) = .ok (c.operator, vs ++ rest) :=
    readOperator_eq_ok_iff.mpr ⟨o, rfl, keyword⟩
  have hv : readValue stop c.operator (vs ++ rest) = .ok (c.value, rest) :=
    readValue_eq_ok_iff.mpr ⟨vs, rfl, hvs⟩
  refine ⟨by rw [hts]; simp only [List.length_append, List.length_cons]; omega, ?_⟩
  unfold readComparison
  split
  case h_1 e h => cases he.symm.trans h
  case h_2 entity afterEntity h =>
    cases he.symm.trans h
    split
    case h_1 e h => cases ht.symm.trans h
    case h_2 tag afterTag h =>
      cases ht.symm.trans h
      split
      case h_1 e h => cases ho.symm.trans h
      case h_2 operator afterOperator h =>
        cases ho.symm.trans h
        split
        case h_1 e h => cases hv.symm.trans h
        case h_2 value rest' h => cases hv.symm.trans h; rfl

structure Reading.Derived (limit room : Nat) (tier : Tier) {ts : List Token} (r : Reading ts) :
    Prop where
  derives : ∃ n taken, n ≤ room ∧ ts = taken ++ r.rest ∧
    Derives tier n (taken.map Token.kind) r.expression
  height_eq : r.height = r.expression.height
  height_le : r.height ≤ limit

def Reader.Sound (limit room : Nat) (tier : Tier) (read : Reader) : Prop :=
  ∀ {ts : List Token} {r : Reading ts}, read ts = .ok r → r.Derived limit room tier

theorem Reading.Derived.chain {operator : LogicalOperator} {ts : List Token} {r : Reading ts}
    (h : r.Derived limit room (.operand operator)) : r.Derived limit room (.chain operator) := by
  obtain ⟨⟨n, taken, hn, hts, hd⟩, hh, hle⟩ := h
  exact ⟨⟨n, taken, hn, hts, .operand hd⟩, hh, hle⟩

theorem Reading.Derived.join {operator : LogicalOperator} {t : Token} {ts more : List Token}
    {left joined : Reading ts} {right : Reading more}
    (hl : left.Derived limit room (.chain operator))
    (hr : right.Derived limit room (.operand operator)) (hm : left.rest = t :: more)
    (hk : t.kind = .keyword (.logical operator))
    (he : joined.expression = .logical operator left.expression right.expression)
    (hh : joined.height = max left.height right.height + 1) (hj : joined.rest = right.rest)
    (fits : joined.height ≤ limit) : joined.Derived limit room (.chain operator) := by
  obtain ⟨⟨n, ls, hn, hls, hld⟩, hlh, -⟩ := hl
  obtain ⟨⟨m, rs, hm', hrs, hrd⟩, hrh, -⟩ := hr
  refine ⟨⟨max n m, ls ++ t :: rs, Nat.max_le.mpr ⟨hn, hm'⟩, ?_, ?_⟩, ?_, fits⟩
  · rw [hm, hrs] at hls
    simpa [hj] using hls
  · simp only [List.map_append, List.map_cons, hk, he]
    exact .join hld hrd
  · simp only [hh, he, hlh, hrh, Expression.height]

theorem readFurther_sound {operator : LogicalOperator} {operand : Reader}
    (ho : Reader.Sound limit room (.operand operator) operand) {ts : List Token}
    {left r : Reading ts} (hl : left.Derived limit room (.chain operator))
    (h : readFurther limit operator operand left = .ok r) :
    r.Derived limit room (.chain operator) := by
  fun_induction readFurther limit operator operand left with
  | case1 left => cases h; exact hl
  | case2 => cases h
  | case3 => cases h
  | case4 left t more hm hk right hr height fits ih =>
    exact ih (hl.join (ho hr) hm hk rfl rfl rfl (Nat.le_of_not_lt fits)) h
  | case5 => cases h; exact hl

theorem readChain_sound {operator : LogicalOperator} {operand : Reader}
    (ho : Reader.Sound limit room (.operand operator) operand) :
    Reader.Sound limit room (.chain operator) (readChain limit operator operand) := by
  intro ts r h
  unfold readChain at h
  obtain ⟨left, hl, h⟩ := Result.bind_eq_ok_iff.mp h
  exact readFurther_sound ho (ho hl).chain h

theorem readLogical_sound {unary : Reader} (hu : Reader.Sound limit room .unary unary) :
    Reader.Sound limit room (.chain .disjunction) (readLogical limit unary) :=
  readChain_sound (readChain_sound hu)

theorem negate_eq_ok_iff {offset : Nat} {ts : List Token} {operand r : Reading ts} :
    negate limit offset operand = .ok r ↔
      operand.height + 1 ≤ limit ∧ r.expression = .negation operand.expression ∧
        r.height = operand.height + 1 ∧ r.rest = operand.rest := by
  obtain ⟨e, n, rest, shorter⟩ := r
  unfold negate
  split <;> simp <;> grind

theorem closeParenthesis_eq_ok_iff {ts : List Token} {inner r : Reading ts} :
    closeParenthesis stop inner = .ok r ↔
      (∃ t, inner.rest = t :: r.rest ∧ t.kind = .closeParenthesis) ∧
        r.expression = inner.expression ∧ r.height = inner.height := by
  obtain ⟨e, n, rest, shorter⟩ := r
  unfold closeParenthesis
  split <;> simp [unexpected] <;> grind

theorem readComparison_sound (hl : 0 < limit) :
    Reader.Sound limit room .unary (readComparison stop) := by
  intro ts r h
  obtain ⟨taken, c, hts, hc, he, hh⟩ := comparisonText_of_readComparison h
  refine ⟨⟨0, taken, Nat.zero_le room, hts, ?_⟩, ?_, ?_⟩
  · rw [he]
    exact .primary (.comparison hc)
  · rw [hh, he, Expression.height]
  · rw [hh]
    exact hl

theorem Reading.Derived.negation {t : Token} {ts : List Token} {operand r : Reading ts}
    (keyword : t.kind = .keyword .negation) (ho : operand.Derived limit room .unary)
    (h : negate limit t.offset operand = .ok r) :
    (r.after t).Derived limit (room + 1) .unary := by
  obtain ⟨hle, he, hh, hr⟩ := negate_eq_ok_iff.mp h
  obtain ⟨⟨n, taken, hn, hts, hd⟩, hoh, -⟩ := ho
  refine ⟨⟨n + 1, t :: taken, Nat.succ_le_succ hn, ?_, ?_⟩, ?_, ?_⟩
  · simpa [Reading.after, hr] using hts
  · simp only [List.map_cons, keyword, Reading.after, he]
    exact .negation hd
  · simp only [Reading.after, hh, he, hoh, Expression.height]
  · simpa only [Reading.after, hh] using hle

theorem Reading.Derived.parenthesized {t : Token} {ts : List Token} {inner r : Reading ts}
    (keyword : t.kind = .openParenthesis) (hi : inner.Derived limit room (.chain .disjunction))
    (h : closeParenthesis stop inner = .ok r) :
    (r.after t).Derived limit (room + 1) .unary := by
  obtain ⟨⟨close, hr, hk⟩, he, hh⟩ := closeParenthesis_eq_ok_iff.mp h
  obtain ⟨⟨n, taken, hn, hts, hd⟩, hih, hle⟩ := hi
  refine ⟨⟨n + 1, t :: (taken ++ [close]), Nat.succ_le_succ hn, ?_, ?_⟩, ?_, ?_⟩
  · simpa [Reading.after, hr] using hts
  · simp only [List.map_cons, List.map_append, List.map_nil, keyword, hk, Reading.after, he]
    exact .primary (.parenthesized hd)
  · simp only [Reading.after, hh, he, hih]
  · simpa only [Reading.after, hh] using hle

theorem readUnary_sound (hl : 0 < limit) :
    Reader.Sound limit room .unary (readUnary limit stop room) := by
  induction room with
  | zero =>
    intro ts r h
    unfold readUnary at h
    split at h
    case h_1 => cases h
    case h_2 t rest =>
      split at h
      case h_1 => cases h
      case h_2 => cases h
      case h_3 => cases h
      case h_4 => exact readComparison_sound hl h
  | succ room ih =>
    intro ts r h
    unfold readUnary at h
    split at h
    case h_1 => cases h
    case h_2 t rest =>
      split at h
      case h_1 keyword =>
        obtain ⟨operand, ho, h⟩ := Result.bind_eq_ok_iff.mp h
        obtain ⟨negated, hn, h⟩ := Result.bind_eq_ok_iff.mp h
        cases h
        exact .negation keyword (ih ho) hn
      case h_2 keyword =>
        obtain ⟨inner, hi, h⟩ := Result.bind_eq_ok_iff.mp h
        obtain ⟨closed, hc, h⟩ := Result.bind_eq_ok_iff.mp h
        cases h
        exact .parenthesized keyword (readLogical_sound ih hi) hc
      case h_3 => cases h
      case h_4 => exact readComparison_sound hl h

theorem derives_of_ofTokens {ts : List Token} {e : Expression} (hl : 0 < limit)
    (h : ofTokens limit stop ts = .ok e) :
    (∃ n ≤ limit, Derives (.chain .disjunction) n (ts.map Token.kind) e) ∧ e.height ≤ limit := by
  unfold ofTokens at h
  split at h
  case isTrue => cases h
  case isFalse =>
    obtain ⟨r, hr, h⟩ := Result.bind_eq_ok_iff.mp h
    obtain ⟨⟨n, taken, hn, hts, hd⟩, hh, hle⟩ := readLogical_sound (readUnary_sound hl) hr
    split at h
    case h_1 hrest =>
      cases h
      rw [hrest, List.append_nil] at hts
      exact ⟨⟨n, hn, hts ▸ hd⟩, hh ▸ hle⟩
    case h_2 t rest hrest => split at h <;> cases h

end Expression

end Monitoring
