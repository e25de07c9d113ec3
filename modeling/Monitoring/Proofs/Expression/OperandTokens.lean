import Monitoring.Proofs.Expression.Spelling
import Monitoring.Proofs.Result

namespace Monitoring

def ParseError.shift (size : Nat) (e : ParseError) : ParseError :=
  { e with position := size + e.position }

namespace Token

open Text (EndsRun isBlankChar)

def shift (size : Nat) (t : Token) : Token := { t with offset := size + t.offset }

theorem tokenizeFrom_shift (size offset : Nat) (cs : List Char) :
    tokenizeFrom (size + offset) cs =
      ((tokenizeFrom offset cs).map (List.map (shift size))).mapError (ParseError.shift size) := by
  fun_induction tokenizeFrom offset cs with
  | case1 offset => rw [tokenizeFrom]; rfl
  | case2 offset c cs hblank ih => rw [tokenizeFrom_blank hblank, Nat.add_assoc, ih]
  | case3 offset c cs hblank hnone =>
    rw [tokenizeFrom, if_neg hblank]
    split
    case h_1 => rfl
    case h_2 hl => cases hnone.symm.trans hl
  | case4 offset c cs hblank l hl _ text =>
    rename_i ih
    rw [tokenizeFrom_lexeme (by simpa using hblank) hl, Nat.add_assoc, ih]
    cases tokenizeFrom (offset + text.utf8ByteSize) l.rest with
    | error e => rfl
    | ok us => rfl

theorem quotes_escapeQuoted (cs : List Char) : Quotes '\'' (escapeQuoted cs) cs := by
  induction cs with
  | nil => exact .nil
  | cons c cs ih =>
    rw [escapeQuoted]
    split
    case isTrue => exact .escaped c ih
    case isFalse h =>
      simp only [Bool.or_eq_true, decide_eq_true_eq, not_or] at h
      exact .plain h.1 h.2 ih

theorem spells_operand (text : String) : Spells (operandKind text) (operandChars text) := by
  rw [operandKind, operandChars]
  split
  case isTrue =>
    have h : Spells (.quoted (String.ofList text.toList))
        ('\'' :: (escapeQuoted text.toList ++ ['\''])) :=
      .quoted (by decide) (quotes_escapeQuoted text.toList)
    rwa [String.ofList_toList] at h
  case isFalse h =>
    simp only [needsQuotes, Bool.or_eq_true, not_or, Bool.not_eq_true,
      Option.isSome_eq_false_iff, Option.isNone_iff_eq_none] at h
    obtain ⟨⟨nonempty, wordChars⟩, noKeyword⟩ := h
    have hne : text.toList ≠ [] := by simpa using nonempty
    obtain ⟨c, cs, htext⟩ := List.exists_cons_of_ne_nil hne
    have hs : Spells (kindOfWord (String.ofList (c :: cs))) (c :: cs) :=
      .word (by simpa [htext] using wordChars)
    rwa [← htext, String.ofList_toList, kindOfWord, noKeyword] at hs

def operand (text : String) : String := String.ofList (operandChars text)

theorem tokenize_operand (text : String) {behind : String}
    (hb : EndsRun isWordChar behind.toList) :
    tokenize (operand text ++ behind) =
      ((tokenize behind).map fun us => ⟨operandKind text, operand text, 0⟩ ::
        us.map (shift (operand text).utf8ByteSize)).mapError
          (ParseError.shift (operand text).utf8ByteSize) := by
  have hsize : 0 + sizeOf (operandChars text) = (operand text).utf8ByteSize + 0 := by
    rw [Nat.zero_add, Nat.add_zero]
    rfl
  rw [tokenize, String.toList_append, operand, String.toList_ofList,
    tokenizeFrom_spelled (spells_operand text) fun _ => hb, hsize, tokenizeFrom_shift, tokenize]
  cases tokenizeFrom 0 behind.toList with
  | error e => rfl
  | ok us => rfl

theorem endsRun_of_delimiter {cs : List Char}
    (h : ∀ c more, cs = c :: more → isBlankChar c = true ∨ c = ')') : EndsRun isWordChar cs := by
  intro c more hcs
  rcases h c more hcs with hblank | rfl
  · simp [isWordChar, hblank]
  · decide

/-- Whatever a tag or value is, its rendering is one token with just that text, not a keyword, if
nothing, white space or a closing parenthesis follows, and the rest is read as it is by itself. -/
theorem operand_reads_back (text behind : String)
    (hb : ∀ c more, behind.toList = c :: more → isBlankChar c = true ∨ c = ')') :
    ∃ t : Token, (t.kind = .word text ∨ t.kind = .quoted text) ∧ t.text = operand text ∧
      t.offset = 0 ∧
      (∀ us, tokenize behind = .ok us → tokenize (operand text ++ behind) =
        .ok (t :: us.map (shift (operand text).utf8ByteSize))) ∧
      ∀ e, tokenize behind = .error e → tokenize (operand text ++ behind) =
        .error (e.shift (operand text).utf8ByteSize) := by
  have htokens := tokenize_operand text (endsRun_of_delimiter hb)
  refine ⟨⟨operandKind text, operand text, 0⟩, ?_, rfl, rfl, ?_, ?_⟩
  · change operandKind text = _ ∨ operandKind text = _
    rw [operandKind]
    split
    case isTrue => exact .inr rfl
    case isFalse => exact .inl rfl
  · intro us hus
    rw [htokens, hus]
    rfl
  · intro e he
    rw [htokens, he]
    rfl

theorem operand_reads_back_keyword :
    ∃ t : Token, (t.kind = .word "Not" ∨ t.kind = .quoted "Not") ∧ t.text = "'Not'" ∧
      t.offset = 0 ∧ tokenize ("'Not'" ++ ") and") =
        .ok [t, ⟨.closeParenthesis, ")", 5⟩, ⟨.keyword (.logical .conjunction), "and", 7⟩] := by
  have spelled : operand "Not" = "'Not'" := by decide +kernel
  have behind : tokenize ") and" =
      .ok [⟨.closeParenthesis, ")", 0⟩, ⟨.keyword (.logical .conjunction), "and", 2⟩] := by
    decide +kernel
  obtain ⟨t, hkind, htext, hoffset, hok, -⟩ :=
    operand_reads_back "Not" ") and" (by rintro _ _ ⟨⟩; exact .inr rfl)
  rw [spelled] at htext hok
  exact ⟨t, hkind, htext, hoffset, hok _ behind⟩

end Token

end Monitoring
