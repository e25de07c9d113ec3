import Monitoring.Proofs.Expression.Spelling
import Monitoring.Proofs.Result

namespace Monitoring.Token

open Text (isBlankChar)

inductive Outside : List Char → Prop
  | nil : Outside []
  | plain {c : Char} {cs : List Char} (noMark : isQuote c = false) (rest : Outside cs) :
      Outside (c :: cs)
  | quoted {quote : Char} {body content cs : List Char} (mark : isQuote quote = true)
      (closed : Quotes quote body content) (rest : Outside cs) :
      Outside (quote :: (body ++ quote :: cs))

def Unclosed (quote : Char) (after : List Char) : Prop :=
  ∀ body content rest, after = body ++ quote :: rest → ¬Quotes quote body content

variable {offset : Nat} {quote c : Char} {cs before after : List Char} {e : ParseError}

theorem readQuoted_eq_none_iff (hq : isQuote quote = true) :
    readQuoted quote cs = none ↔ Unclosed quote cs := by
  constructor
  · rintro h body content rest rfl hb
    rw [readQuoted_of_quotes hq hb] at h
    cases h
  · intro h
    cases hr : readQuoted quote cs with
    | none => rfl
    | some r =>
      obtain ⟨body, -, hcs, hb⟩ := quotes_of_readQuoted hr
      exact absurd hb (h body _ _ hcs)

theorem isQuote_of_isBlankChar (h : isBlankChar c = true) : isQuote c = false := by
  rw [isQuote, Bool.or_eq_false_iff]
  constructor
  · rw [decide_eq_false_iff_not]
    rintro rfl
    exact absurd h (by decide)
  · rw [decide_eq_false_iff_not]
    rintro rfl
    exact absurd h (by decide)

theorem Outside.append_of_plain (hc : ∀ c ∈ cs, isQuote c = false) (h : Outside after) :
    Outside (cs ++ after) := by
  induction cs with
  | nil => exact h
  | cons c cs ih =>
    obtain ⟨hc, hcs⟩ := List.forall_mem_cons.mp hc
    exact .plain hc (ih hcs)

theorem Spells.outside {kind : TokenKind} (hs : Spells kind cs) (h : Outside after) :
    Outside (cs ++ after) := by
  cases hs with
  | openParenthesis => exact .plain (by decide) h
  | closeParenthesis => exact .plain (by decide) h
  | colon => exact .plain (by decide) h
  | quoted mark closed =>
    rw [List.cons_append, List.append_assoc, List.singleton_append]
    exact .quoted mark closed h
  | word wordChars =>
    exact h.append_of_plain fun c hc => (ne_reserved_of_isWordChar (wordChars c hc)).2.2.2

theorem Outside.dropWhile (h : Outside cs) : Outside (cs.dropWhile isWordChar) := by
  induction h with
  | nil => exact .nil
  | @plain c cs noMark rest ih =>
    rw [List.dropWhile_cons]
    split
    case isTrue => exact ih
    case isFalse => exact .plain noMark rest
  | @quoted quote body content cs mark closed rest ih =>
    rw [List.dropWhile_cons_of_neg]
    · exact .quoted mark closed rest
    · intro hc
      have := (ne_reserved_of_isWordChar hc).2.2.2
      simp [mark] at this

theorem Outside.exists_spells (hb : isBlankChar c = false) (h : Outside (c :: cs)) :
    ∃ kind text rest, Spells kind text ∧ EndsBefore kind rest ∧ c :: cs = text ++ rest ∧
      Outside rest := by
  cases h with
  | quoted mark closed rest => exact ⟨_, _, _, .quoted mark closed, nofun, by simp, rest⟩
  | plain noMark rest =>
    obtain ⟨kind, text, more, hs, hr, htext, hmore⟩ := exists_spells_of_plain hb noMark cs
    refine ⟨kind, text, more, hs, hr, htext, ?_⟩
    rcases hmore with rfl | rfl
    · exact rest
    · exact rest.dropWhile

theorem Outside.of_cons (hq : isQuote c = false) (h : Outside (c :: cs)) : Outside cs := by
  cases h with
  | plain _ rest => exact rest
  | quoted mark _ _ => simp [hq] at mark

theorem isWordChar_of_isQuote (h : isQuote c = true) : isWordChar c = false := by
  obtain rfl | rfl := isQuote_iff.mp h <;> decide

theorem tokenizeFrom_of_unclosed (ho : Outside before) (hq : isQuote quote = true)
    (hu : Unclosed quote after) :
    tokenizeFrom offset (before ++ quote :: after) =
      .error ⟨.unterminatedString, offset + sizeOf before⟩ := by
  induction hn : before.length using Nat.strongRecOn generalizing before offset with
  | ind n ih =>
    subst hn
    cases before with
    | nil =>
      have hblank : isBlankChar quote = false := by
        by_contra h
        simp [isQuote_of_isBlankChar (by simpa using h)] at hq
      rw [List.nil_append, tokenizeFrom, if_neg (by simp [hblank])]
      split
      case h_1 => rfl
      case h_2 l hl =>
        rw [lexeme?_quote hq, (readQuoted_eq_none_iff hq).mpr hu] at hl
        cases hl
    | cons c before =>
      cases hb : isBlankChar c with
      | true =>
        have hrest := ho.of_cons (isQuote_of_isBlankChar hb)
        rw [List.cons_append, tokenizeFrom_blank hb, ih _ (Nat.lt_succ_self _) hrest rfl,
          sizeOf_cons, Nat.add_assoc]
      | false =>
        obtain ⟨kind, text, rest, hs, hr, htext, hrest⟩ := ho.exists_spells hb
        have hshorter : rest.length < (c :: before).length := by
          obtain ⟨d, ds, rfl, -⟩ := hs.exists_cons
          rw [htext, List.length_append, List.length_cons]
          omega
        have hends : EndsBefore kind (rest ++ quote :: after) := fun hword =>
          (hr hword).append (.cons (isWordChar_of_isQuote hq))
        rw [htext, List.append_assoc, tokenizeFrom_spelled hs hends, ih _ hshorter hrest rfl,
          sizeOf_append, ← Nat.add_assoc]
        rfl

theorem exists_unclosed_of_tokenizeFrom (h : tokenizeFrom offset cs = .error e) :
    ∃ before quote after, cs = before ++ quote :: after ∧ isQuote quote = true ∧ Outside before ∧
      Unclosed quote after ∧ e = ⟨.unterminatedString, offset + sizeOf before⟩ := by
  fun_induction tokenizeFrom offset cs with
  | case1 offset => cases h
  | case2 offset c cs hblank ih =>
    obtain ⟨before, quote, after, rfl, hq, ho, hu, rfl⟩ := ih h
    refine ⟨c :: before, quote, after, rfl, hq, .plain (isQuote_of_isBlankChar hblank) ho, hu, ?_⟩
    rw [sizeOf_cons, Nat.add_assoc]
  | case3 offset c cs hblank hnone =>
    cases h
    cases hq : isQuote c with
    | true =>
      rw [lexeme?_quote hq, Option.map_eq_none_iff, readQuoted_eq_none_iff hq] at hnone
      exact ⟨[], c, cs, rfl, hq, .nil, hnone, rfl⟩
    | false =>
      obtain ⟨kind, text, rest, hs, hr, htext, -⟩ :=
        exists_spells_of_plain (by simpa using hblank) hq cs
      cases (lexeme?_of_spells hs hr htext).symm.trans hnone
  | case4 offset c cs hblank l hl _ text =>
    rename_i ih
    obtain ⟨before, quote, after, hrest, hq, ho, hu, rfl⟩ := ih (Result.map_eq_error_iff.mp h)
    obtain ⟨hs, -, htext⟩ := spells_of_lexeme? (by simpa using hblank) hl
    refine ⟨l.text ++ before, quote, after, ?_, hq, hs.outside ho, hu, ?_⟩
    · rw [htext, hrest, List.append_assoc]
    · rw [sizeOf_append, Nat.add_assoc]
      rfl

end Monitoring.Token
