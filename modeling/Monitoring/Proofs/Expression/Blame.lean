import Monitoring.Proofs.Expression.Progress

/-!
What each reader blames when it fails. It reads on while the tokens lead somewhere and blames the
first that leads nowhere, which is the one that the machine of progress refuses; only the limits can
make it fail before.
-/

namespace Monitoring

theorem Text.toLower_of_isBlankChar {c : Char} (h : isBlankChar c = true) : c.toLower = c := by
  unfold Char.toLower
  split
  case isTrue upper =>
    have hc : isBlankChar c = false := by
      have hfirst : 65 ≤ c.toNat := upper.1
      have hlast : c.toNat ≤ 90 := upper.2
      simp only [isBlankChar, inRanges, blankRanges, codeInRanges]
      split
      · rfl
      · simp
        omega
    cases hc.symm.trans h
  case isFalse => rfl

theorem Entity.isBlank_of_ofKeyword? {word : String} {entity : Entity}
    (h : ofKeyword? word = some entity) : Text.isBlank word = false := by
  by_contra hb
  have hblank : ∀ c ∈ word.toList, Text.isBlankChar c = true :=
    List.all_eq_true.mp (by simpa [Text.isBlank] using hb)
  have hlower : word.toList.map Char.toLower = word.toList :=
    (List.map_congr_left fun c hc => Text.toLower_of_isBlankChar (hblank c hc)).trans
      (List.map_id word.toList)
  have hsame := Entity.ofKeyword?_eq_some_iff.mp h
  rw [Text.equalsIgnoringCase, beq_iff_eq, hlower] at hsame
  have hall : (entity.keyword.toList.map Char.toLower).all Text.isBlankChar = true :=
    List.all_eq_true.mpr (hsame ▸ hblank)
  revert hall
  cases entity <;> decide

def ParseErrorKind.isUnknownEntityOrigin : ParseErrorKind → Bool
  | unknownEntityOrigin _ => true
  | _ => false

namespace Expression

variable {limit stop room depth : Nat} {p q : Progress} {ts more : List Token} {e : ParseError}

def Stuck (p : Progress) : List Token → Prop
  | [] => p ≠ .finished
  | t :: _ => p.step t.kind = none

/-- The error is about the tokens that are left over, which nothing read so far can go on with. An
unknown entity shows by the colon behind it. -/
inductive Blames (stop : Nat) (p : Progress) : List Token → ParseError → Prop
  | front {ts : List Token} {kind : ParseErrorKind}
      (other : kind.isUnknownEntityOrigin = false) (stuck : Stuck p ts) :
      Blames stop p ts ⟨kind, (foundIn stop ts).2⟩
  | origin {word : String} {t colon : Token} {ts : List Token} (sign : colon.kind = .colon)
      (stuck : p.run [t.kind, .colon] = none) :
      Blames stop p (t :: colon :: ts) ⟨.unknownEntityOrigin word, t.offset⟩

def Reports (stop : Nat) (p : Progress) (ts : List Token) (e : ParseError) : Prop :=
  ∃ before after q, ts = before ++ after ∧ p.run (before.map Token.kind) = some q ∧
    Blames stop q after e

def TooDeep (limit room : Nat) (ts : List Token) (e : ParseError) : Prop :=
  e.kind = .nestingTooDeep ∧ (limit < ts.length ∨ room < ts.length)

def Reader.Explains (limit room stop : Nat) (read : Reader) : Prop :=
  ∀ {ts : List Token} {e : ParseError}, read ts = .error e → ∀ depth,
    TooDeep limit room ts e ∨ Reports stop ⟨.operand, depth⟩ ts e

section Reports

theorem Blames.reports (h : Blames stop p ts e) : Reports stop p ts e := ⟨[], ts, p, rfl, rfl, h⟩

theorem Reports.behind {before after : List Token}
    (hp : p.run (before.map Token.kind) = some q) (h : Reports stop q after e) :
    Reports stop p (before ++ after) e := by
  obtain ⟨taken, left, q', rfl, hq, hb⟩ := h
  refine ⟨before ++ taken, left, q', (List.append_assoc ..).symm, ?_, hb⟩
  rw [List.map_append, Progress.run_append_of_run hp, hq]

theorem Reports.after {t : Token} (hp : p.step t.kind = some q) (h : Reports stop q ts e) :
    Reports stop p (t :: ts) e := by
  have hrun : p.run ([t].map Token.kind) = some q := Progress.run_singleton.trans hp
  exact Reports.behind hrun h

theorem TooDeep.mono {us : List Token} (h : TooDeep limit room ts e) (hl : ts.length ≤ us.length) :
    TooDeep limit room us e := by
  obtain ⟨hk, hd⟩ := h
  exact ⟨hk, by omega⟩

theorem blames_of_unexpected {α : Type} {kind : Found → ParseErrorKind}
    (other : ∀ found, (kind found).isUnknownEntityOrigin = false) (stuck : Stuck p ts)
    (h : (unexpected stop ts kind : Except ParseError α) = .error e) : Blames stop p ts e := by
  cases h
  exact .front (other _) stuck

theorem Reports.run_ne_finished (h : Reports stop p ts e) :
    p.run (ts.map Token.kind) ≠ some .finished := by
  obtain ⟨before, after, q, rfl, hq, hb⟩ := h
  rw [List.map_append, Progress.run_append_of_run hq]
  cases hb with
  | front other stuck =>
    cases after with
    | nil =>
      rw [List.map_nil, Progress.run_nil, Ne, Option.some.injEq]
      exact stuck
    | cons t after =>
      rw [List.map_cons, Progress.run_cons, show q.step t.kind = none from stuck]
      nofun
  | @origin word t colon after sign stuck =>
    have hnone : q.run ([t.kind, .colon] ++ after.map Token.kind) = none :=
      Progress.run_append_of_run_eq_none stuck
    rw [List.map_cons, List.map_cons, sign]
    exact fun h => nomatch hnone.symm.trans h

end Reports

section Comparisons

theorem run_operand_colon {kind : TokenKind}
    (h : ∀ word, kind = .word word → Entity.ofKeyword? word = none) :
    Progress.run ⟨.operand, depth⟩ [kind, .colon] = none := by
  cases kind with
  | word word =>
    rw [Progress.run_cons, Progress.step, h word rfl]
    cases hb : Text.isBlank word <;> simp [Progress.stepTag, operandText?, hb,
      Progress.run_singleton, Progress.step, Progress.stepOperator]
  | quoted content =>
    rw [Progress.run_cons]
    cases hb : Text.isBlank content <;> simp [Progress.stepTag, operandText?, hb,
      Progress.run_singleton, Progress.step, Progress.stepOperator]
  | keyword keyword =>
    cases keyword <;> rfl
  | openParenthesis => rfl
  | closeParenthesis => rfl
  | colon => rfl

theorem blames_of_readEntity (h : readEntity ts = .error e) :
    Blames stop ⟨.operand, depth⟩ ts e := by
  unfold readEntity at h
  split at h
  case h_1 first second rest =>
    split at h
    case isTrue colon =>
      split at h
      case h_1 word hw =>
        split at h
        case h_1 => cases h
        case h_2 unknown =>
          cases h
          refine .origin colon (run_operand_colon fun word' h => ?_)
          cases hw.symm.trans h
          exact unknown
      case h_2 noWord =>
        cases h
        exact .origin colon (run_operand_colon fun word h => absurd h (noWord word))
    case isFalse => cases h
  case h_2 => cases h

theorem blames_of_readTag (hp : p ≠ .finished)
    (hs : ∀ t more, ts = t :: more → Progress.stepTag depth t.kind = none → p.step t.kind = none)
    (h : readTag stop ts = .error e) : Blames stop p ts e := by
  unfold readTag at h
  split at h
  case h_1 => exact blames_of_unexpected (fun _ => rfl) hp h
  case h_2 t rest =>
    have stuck := hs t rest rfl
    rw [Progress.stepTag] at stuck
    split at h
    case h_1 none => exact blames_of_unexpected (fun _ => rfl) (stuck (by rw [none])) h
    case h_2 tag operand =>
      split at h
      case isTrue blank =>
        cases h
        exact .front rfl (stuck (by rw [operand]; exact if_pos blank))
      case isFalse => cases h

theorem blames_of_readOperator {tag : String} (hp : p ≠ .finished)
    (hs : ∀ t more, ts = t :: more → p.step t.kind = Progress.stepOperator depth t.kind)
    (h : readOperator stop tag ts = .error e) : Blames stop p ts e := by
  unfold readOperator at h
  split at h
  case h_1 => exact blames_of_unexpected (fun _ => rfl) hp h
  case h_2 t rest =>
    have step := hs t rest rfl
    split at h
    case h_1 => cases h
    case h_2 word hw =>
      cases h
      exact .front rfl (step.trans (by rw [hw]; rfl))
    case h_3 noOperator noWord =>
      refine blames_of_unexpected (fun _ => rfl) (step.trans ?_) h
      unfold Progress.stepOperator
      split
      case h_1 operator hk => exact absurd hk (noOperator operator)
      case h_2 => rfl

theorem blames_of_readValue (depth : Nat) {operator : ComparisonOperator}
    (h : readValue stop operator ts = .error e) :
    operator.isUnary = false ∧ Blames stop ⟨.value, depth⟩ ts e := by
  unfold readValue at h
  split at h
  case isTrue => cases h
  case isFalse binary =>
    refine ⟨by simpa using binary, ?_⟩
    split at h
    case h_1 => exact blames_of_unexpected (fun _ => rfl) (by simp [Stuck]) h
    case h_2 t rest =>
      split at h
      case h_1 none =>
        refine blames_of_unexpected (fun _ => rfl) ?_ h
        rw [Stuck, Progress.step, none, Option.map_none]
      case h_2 => cases h

theorem readComparison_eq_error (h : readComparison stop ts = .error e) :
    readEntity ts = .error e ∨
    ∃ entity afterEntity, readEntity ts = .ok (entity, afterEntity) ∧
      (readTag stop afterEntity = .error e ∨
      ∃ tag afterTag, readTag stop afterEntity = .ok (tag, afterTag) ∧
        (readOperator stop tag afterTag = .error e ∨
        ∃ operator afterOperator, readOperator stop tag afterTag = .ok (operator, afterOperator) ∧
          readValue stop operator afterOperator = .error e)) := by
  unfold readComparison at h
  split at h
  case h_1 he => cases h; exact .inl he
  case h_2 entity afterEntity he =>
    refine .inr ⟨entity, afterEntity, he, ?_⟩
    split at h
    case h_1 ht => cases h; exact .inl ht
    case h_2 tag afterTag ht =>
      refine .inr ⟨tag, afterTag, ht, ?_⟩
      split at h
      case h_1 ho => cases h; exact .inl ho
      case h_2 operator afterOperator ho =>
        refine .inr ⟨operator, afterOperator, ho, ?_⟩
        split at h
        case h_1 hv => cases h; exact hv
        case h_2 => cases h

theorem reports_behind_tag {tag : String} (hp : p ≠ .finished)
    (hs : ∀ t more, ts = t :: more → p.step t.kind = Progress.stepOperator depth t.kind)
    (h : readOperator stop tag ts = .error e ∨
      ∃ operator rest, readOperator stop tag ts = .ok (operator, rest) ∧
        readValue stop operator rest = .error e) : Reports stop p ts e := by
  obtain h | ⟨operator, rest, ho, hv⟩ := h
  · exact (blames_of_readOperator hp hs h).reports
  obtain ⟨t, rfl, hk⟩ := readOperator_eq_ok_iff.mp ho
  obtain ⟨binary, hb⟩ := blames_of_readValue depth hv
  refine Reports.after ((hs t rest rfl).trans ?_) hb.reports
  rw [hk, Progress.stepOperator, if_neg (by simp [binary])]

theorem step_operand_eq_none (depth : Nat) {kind : TokenKind}
    (negation_ne : kind ≠ .keyword .negation) (open_ne : kind ≠ .openParenthesis)
    (h : Progress.stepTag depth kind = none) :
    Progress.step ⟨.operand, depth⟩ kind = none := by
  cases kind with
  | openParenthesis => exact absurd rfl open_ne
  | closeParenthesis => rfl
  | colon => rfl
  | quoted content => exact h
  | keyword keyword =>
    cases keyword with
    | negation => exact absurd rfl negation_ne
    | logical => rfl
    | comparison => rfl
  | word word =>
    rw [Progress.step]
    split
    case isFalse => exact h
    case isTrue known =>
      obtain ⟨entity, hentity⟩ := Option.isSome_iff_exists.mp known
      simp [Progress.stepTag, operandText?, Entity.isBlank_of_ofKeyword? hentity] at h

theorem reports_of_readComparison
    (hn : ∀ t more, ts = t :: more → t.kind ≠ .keyword .negation ∧ t.kind ≠ .openParenthesis)
    (h : readComparison stop ts = .error e) (depth : Nat) :
    Reports stop ⟨.operand, depth⟩ ts e := by
  obtain hentity | ⟨entity, afterEntity, he, hbehind⟩ := readComparison_eq_error h
  · exact (blames_of_readEntity hentity).reports
  clear h
  cases entity with
  | some entity =>
    obtain ⟨taken, rfl, htaken⟩ := readEntity_eq_some_iff.mp he
    refine Reports.behind (Progress.run_entityText depth htaken) ?_
    obtain htag | ⟨tag, afterTag, ht, hbehind⟩ := hbehind
    · exact Blames.reports (blames_of_readTag (by simp) (fun _ _ _ h => h) htag)
    obtain ⟨t, rfl, operand, filled⟩ := readTag_eq_ok_iff.mp ht
    exact Reports.after (Progress.stepTag_of_operandText depth operand filled)
      (reports_behind_tag (by simp) (fun _ _ _ => rfl) hbehind)
  | none =>
    obtain ⟨rfl, noColon⟩ := readEntity_eq_none_iff.mp he
    obtain htag | ⟨tag, afterTag, ht, hbehind⟩ := hbehind
    · have stuck (t more) (hts : afterEntity = t :: more) :=
        step_operand_eq_none depth (hn t more hts).1 (hn t more hts).2
      exact Blames.reports (blames_of_readTag (by simp) stuck htag)
    obtain ⟨t, rfl, operand, filled⟩ := readTag_eq_ok_iff.mp ht
    rcases Progress.step_operand_of_operandText depth operand filled with hp | hp
    · exact Reports.after hp (reports_behind_tag (by simp) (fun _ _ _ => rfl) hbehind)
    · have step (second more) (hmore : afterTag = second :: more) :
          Progress.step ⟨.colonOrOperator, depth⟩ second.kind =
            Progress.stepOperator depth second.kind := by
        rw [Progress.step]
        exact noColon t second more (by rw [hmore])
      exact Reports.after hp (reports_behind_tag (by simp) step hbehind)

end Comparisons

section Chains

variable {operator : LogicalOperator} {operand : Reader}

theorem Reading.Derived.length_le {tier : Tier} {r : Reading ts}
    (h : r.Derived limit room tier) : r.height + r.rest.length ≤ ts.length := by
  obtain ⟨⟨n, taken, -, hts, hd⟩, hh, -⟩ := h
  have hle := hd.height_le_length
  have hlength := congrArg List.length hts
  rw [List.length_map] at hle
  rw [List.length_append] at hlength
  omega

theorem Reading.Derived.reports {tier : Tier} {r : Reading ts} (h : r.Derived limit room tier)
    (hr : Reports stop ⟨.continuation, depth⟩ r.rest e) :
    Reports stop ⟨.operand, depth⟩ ts e := by
  obtain ⟨⟨n, taken, -, hts, hd⟩, -, -⟩ := h
  rw [hts]
  exact hr.behind (Progress.run_of_derives hd depth)

theorem readFurther_explains (hs : Reader.Sound limit room (.operand operator) operand)
    (ho : operand.Explains limit room stop) {left : Reading ts}
    (hl : left.Derived limit room (.chain operator))
    (h : readFurther limit operator operand left = .error e) (depth : Nat) :
    TooDeep limit room ts e ∨ Reports stop ⟨.operand, depth⟩ ts e := by
  fun_induction readFurther limit operator operand left with
  | case1 => cases h
  | case2 left t more hm hk e' he =>
    cases h
    have hlength := hl.length_le
    rw [hm, List.length_cons] at hlength
    rcases ho he depth with hd | hr
    · exact .inl (hd.mono (by omega))
    · refine .inr (hl.reports ?_)
      rw [hm]
      exact hr.after (by rw [hk]; rfl)
  | case3 left t more hm hk right hr height deep =>
    cases h
    have hlength := hl.length_le
    have hlength' := (hs hr).length_le
    rw [hm, List.length_cons] at hlength
    exact .inl ⟨rfl, .inl (by omega)⟩
  | case4 left t more hm hk right hr height fits ih =>
    exact ih (hl.join (hs hr) hm hk rfl rfl rfl (Nat.le_of_not_lt fits)) h
  | case5 => cases h

theorem readChain_explains (hs : Reader.Sound limit room (.operand operator) operand)
    (ho : operand.Explains limit room stop) :
    (readChain limit operator operand).Explains limit room stop := by
  intro ts e h depth
  obtain h | ⟨left, hl, h⟩ := Result.bind_eq_error_iff.mp h
  · exact ho h depth
  · exact readFurther_explains hs ho (hs hl).chain h depth

theorem readLogical_explains {unary : Reader} (hs : Reader.Sound limit room .unary unary)
    (hu : unary.Explains limit room stop) :
    (readLogical limit unary).Explains limit room stop :=
  readChain_explains (readChain_sound hs) (readChain_explains hs hu)

theorem readFurther_ends {P : List Token → Prop}
    (ho : ∀ {ts : List Token} {r : Reading ts}, operand ts = .ok r → P r.rest)
    {left r : Reading ts} (hl : P left.rest)
    (h : readFurther limit operator operand left = .ok r) :
    P r.rest ∧ (Tier.chain operator).EndsBefore r.rest := by
  fun_induction readFurther limit operator operand left with
  | case1 left hm =>
    cases h
    refine ⟨hl, fun t more hrest => ?_⟩
    cases hm.symm.trans hrest
  | case2 => cases h
  | case3 => cases h
  | case4 left t more hm hk right hr height fits ih =>
    have hright : P right.rest := ho hr
    exact ih hright h
  | case5 left t more hm hk =>
    cases h
    refine ⟨hl, fun t' more' hrest => ?_⟩
    cases hm.symm.trans hrest
    exact hk

theorem readLogical_ends {unary : Reader} {r : Reading ts}
    (h : readLogical limit unary ts = .ok r) (operator : LogicalOperator) :
    (Tier.chain operator).EndsBefore r.rest := by
  have conjunction {ts : List Token} {r : Reading ts}
      (h : readChain limit .conjunction unary ts = .ok r) :
      (Tier.chain .conjunction).EndsBefore r.rest := by
    obtain ⟨left, -, h⟩ := Result.bind_eq_ok_iff.mp h
    exact (readFurther_ends (P := fun _ => True) (fun _ => trivial) trivial h).2
  obtain ⟨left, hl, h⟩ := Result.bind_eq_ok_iff.mp h
  have hends := readFurther_ends conjunction (conjunction hl) h
  cases operator with
  | conjunction => exact hends.1
  | disjunction => exact hends.2

theorem step_continuation_eq_none {kind : TokenKind}
    (logical_ne : ∀ operator, kind ≠ .keyword (.logical operator))
    (close_ne : depth = 0 ∨ kind ≠ .closeParenthesis) :
    Progress.step ⟨.continuation, depth⟩ kind = none := by
  cases kind with
  | closeParenthesis =>
    obtain rfl | h := close_ne
    · rfl
    · exact absurd rfl h
  | keyword keyword =>
    cases keyword with
    | logical operator => exact absurd rfl (logical_ne operator)
    | negation => rfl
    | comparison => rfl
  | openParenthesis => rfl
  | colon => rfl
  | word => rfl
  | quoted => rfl

end Chains

section Nesting

theorem tooDeep_of_negate {t : Token} {operand : Reading ts}
    (hd : operand.Derived limit room .unary) (h : negate limit t.offset operand = .error e) :
    TooDeep limit (room + 1) (t :: ts) e := by
  unfold negate at h
  split at h
  case isTrue deep =>
    cases h
    have hlength := hd.length_le
    exact ⟨rfl, .inl (by rw [List.length_cons]; omega)⟩
  case isFalse => cases h

theorem blames_of_closeParenthesis (depth : Nat) {inner : Reading ts}
    (he : ∀ operator, (Tier.chain operator).EndsBefore inner.rest)
    (h : closeParenthesis stop inner = .error e) :
    Blames stop ⟨.continuation, depth + 1⟩ inner.rest e := by
  unfold closeParenthesis at h
  split at h
  case h_1 hr =>
    rw [hr]
    exact blames_of_unexpected (fun _ => rfl) (by simp [Stuck]) h
  case h_2 t rest hr =>
    split at h
    case isTrue => cases h
    case isFalse close_ne =>
      rw [hr]
      refine blames_of_unexpected (fun _ => rfl) ?_ h
      exact step_continuation_eq_none (fun operator => he operator t rest hr) (.inr close_ne)

theorem TooDeep.nested {t : Token} (h : TooDeep limit room ts e) :
    TooDeep limit (room + 1) (t :: ts) e := by
  obtain ⟨hk, hd⟩ := h
  exact ⟨hk, by rw [List.length_cons]; omega⟩

theorem readUnary_eq_error (h : readUnary limit stop room ts = .error e) (depth : Nat) :
    Reports stop ⟨.operand, depth⟩ ts e ∨
      ∃ t rest, ts = t :: rest ∧ (t.kind = .keyword .negation ∨ t.kind = .openParenthesis) := by
  unfold readUnary at h
  split at h
  case h_1 =>
    cases h
    exact .inl (Blames.reports (.front rfl (by simp [Stuck])))
  case h_2 t rest =>
    split at h
    case h_1 hk => exact .inr ⟨t, rest, rfl, .inl hk⟩
    case h_2 hk => exact .inr ⟨t, rest, rfl, .inr hk⟩
    case h_3 hk =>
      cases h
      exact .inl (Blames.reports (.front rfl (by rw [Stuck, hk]; rfl)))
    case h_4 negation_ne open_ne _ =>
      refine .inl (reports_of_readComparison ?_ h depth)
      rintro _ _ ⟨⟩
      exact ⟨negation_ne, open_ne⟩

theorem readUnary_explains (hl : 0 < limit) :
    Reader.Explains limit room stop (readUnary limit stop room) := by
  induction room with
  | zero =>
    intro ts e h depth
    obtain hr | ⟨t, rest, rfl, hk⟩ := readUnary_eq_error h depth
    · exact .inr hr
    · rw [readUnary_full hk] at h
      cases h
      exact .inl ⟨rfl, .inr (Nat.succ_pos _)⟩
  | succ room ih =>
    have hs : Reader.Sound limit room .unary (readUnary limit stop room) := readUnary_sound hl
    intro ts e h depth
    obtain hr | ⟨t, rest, rfl, hk | hk⟩ := readUnary_eq_error h depth
    · exact .inr hr
    · rw [readUnary_negation hk] at h
      obtain h | ⟨operand, ho, h⟩ := Result.bind_eq_error_iff.mp h
      · exact (ih h depth).imp .nested (.after (by rw [hk]; rfl))
      obtain h | ⟨negated, -, h⟩ := Result.bind_eq_error_iff.mp h
      · exact .inl (tooDeep_of_negate (hs ho) h)
      · cases h
    · rw [readUnary_parenthesis hk] at h
      have opened : Progress.step ⟨.operand, depth⟩ t.kind = some ⟨.operand, depth + 1⟩ := by
        rw [hk]
        rfl
      obtain h | ⟨inner, hi, h⟩ := Result.bind_eq_error_iff.mp h
      · exact (readLogical_explains hs ih h (depth + 1)).imp .nested (.after opened)
      obtain h | ⟨closed, -, h⟩ := Result.bind_eq_error_iff.mp h
      · have hb := blames_of_closeParenthesis depth (readLogical_ends hi) h
        exact .inr (.after opened ((readLogical_sound hs hi).reports hb.reports))
      · cases h

theorem reports_of_ofTokens (hl : 0 < limit) (hts : ts ≠ [])
    (h : ofTokens limit stop ts = .error e) :
    TooDeep limit limit ts e ∨ Reports stop .start ts e := by
  have hs : Reader.Sound limit limit .unary (readUnary limit stop limit) := readUnary_sound hl
  unfold ofTokens at h
  rw [if_neg (by simpa using hts)] at h
  obtain h | ⟨r, hr, h⟩ := Result.bind_eq_error_iff.mp h
  · exact readLogical_explains hs (readUnary_explains hl) h 0
  refine .inr ((readLogical_sound hs hr).reports ?_)
  split at h
  case h_1 => cases h
  case h_2 t rest hrest =>
    have stuck : Stuck ⟨.continuation, 0⟩ (t :: rest) :=
      step_continuation_eq_none (fun operator => readLogical_ends hr operator t rest hrest)
        (.inl rfl)
    rw [hrest]
    split at h
    case isTrue =>
      cases h
      exact (Blames.front rfl stuck).reports
    case isFalse => exact (blames_of_unexpected (fun _ => rfl) stuck h).reports

end Nesting

end Expression

end Monitoring
