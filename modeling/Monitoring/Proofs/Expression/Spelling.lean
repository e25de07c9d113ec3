import Monitoring.Proofs.Expression.CanonicalTokens

namespace Monitoring

def TokenKind.isWord : TokenKind → Bool
  | word _ => true
  | keyword _ => true
  | _ => false

namespace Token

open Text (EndsRun)

def isQuote (c : Char) : Bool := c = '\'' || c = '"'

inductive Quotes (quote : Char) : List Char → List Char → Prop
  | nil : Quotes quote [] []
  | escaped (c : Char) {body content : List Char} (rest : Quotes quote body content) :
      Quotes quote ('\\' :: c :: body) (c :: content)
  | plain {c : Char} {body content : List Char} (quote_ne : c ≠ quote) (backslash_ne : c ≠ '\\')
      (rest : Quotes quote body content) : Quotes quote (c :: body) (c :: content)

inductive Spells : TokenKind → List Char → Prop
  | openParenthesis : Spells .openParenthesis ['(']
  | closeParenthesis : Spells .closeParenthesis [')']
  | colon : Spells .colon [':']
  | quoted {quote : Char} {body content : List Char} (mark : isQuote quote = true)
      (closed : Quotes quote body content) :
      Spells (.quoted (String.ofList content)) (quote :: (body ++ [quote]))
  | word {c : Char} {cs : List Char} (wordChars : ∀ x ∈ c :: cs, isWordChar x = true) :
      Spells (kindOfWord (String.ofList (c :: cs))) (c :: cs)

def EndsBefore (kind : TokenKind) (rest : List Char) : Prop :=
  kind.isWord = true → EndsRun isWordChar rest

section Quoted

variable {quote : Char} {cs body content taken rest : List Char}

theorem isQuote_iff {c : Char} : isQuote c = true ↔ c = '\'' ∨ c = '"' := by
  simp [isQuote]

theorem ne_backslash_of_isQuote (h : isQuote quote = true) : quote ≠ '\\' := by
  rintro rfl
  exact absurd h (by decide)

theorem readQuoted_of_quotes (hq : isQuote quote = true) (h : Quotes quote body content) :
    readQuoted quote (body ++ quote :: rest) = some (content, body ++ [quote], rest) := by
  have hb := ne_backslash_of_isQuote hq
  induction h with
  | nil => simp [readQuoted, hb]
  | escaped c _ ih => simp [readQuoted, ih]
  | plain quote_ne backslash_ne _ ih => simp [readQuoted, ih, quote_ne, backslash_ne]

theorem quotes_of_readQuoted (h : readQuoted quote cs = some (content, taken, rest)) :
    ∃ body, taken = body ++ [quote] ∧ cs = body ++ quote :: rest ∧ Quotes quote body content := by
  fun_induction readQuoted quote cs generalizing content taken rest with
  | case1 => cases h
  | case2 => cases h
  | case3 c cs ih =>
    obtain ⟨⟨inner, took, more⟩, hr, h⟩ := Option.map_eq_some_iff.mp h
    cases h
    obtain ⟨body, rfl, rfl, hb⟩ := ih hr
    exact ⟨'\\' :: c :: body, rfl, rfl, .escaped c hb⟩
  | case4 cs =>
    cases h
    exact ⟨[], rfl, rfl, .nil⟩
  | case5 c cs hlast hescape hne ih =>
    obtain ⟨⟨inner, took, more⟩, hr, h⟩ := Option.map_eq_some_iff.mp h
    cases h
    obtain ⟨body, rfl, rfl, hb⟩ := ih hr
    refine ⟨c :: body, rfl, rfl, .plain hne ?_ hb⟩
    rintro rfl
    cases body with
    | nil => exact hescape quote rest rfl rfl
    | cons d ds => exact hescape d (ds ++ quote :: rest) rfl rfl

end Quoted

def sizeOf (cs : List Char) : Nat := (String.ofList cs).utf8ByteSize

section Sizes

variable {cs ds : List Char} {c : Char}

theorem sizeOf_append : sizeOf (cs ++ ds) = sizeOf cs + sizeOf ds := by
  rw [sizeOf, String.ofList_append, String.utf8ByteSize_append]
  rfl

theorem sizeOf_cons : sizeOf (c :: cs) = c.utf8Size + sizeOf cs := utf8ByteSize_ofList_cons c cs

theorem sizeOf_nil : sizeOf [] = 0 := rfl

theorem sizeOf_toList (s : String) : sizeOf s.toList = s.utf8ByteSize := by
  rw [sizeOf, String.ofList_toList]

theorem sizeOf_pos (h : cs ≠ []) : 0 < sizeOf cs := by
  cases cs with
  | nil => exact absurd rfl h
  | cons c cs =>
    have := c.utf8Size_pos
    rw [sizeOf_cons]
    omega

end Sizes

section Lexeme

variable {c : Char} {cs rest : List Char} {l : Lexeme}

theorem isWord_kindOfWord (word : String) : (kindOfWord word).isWord = true := by
  unfold kindOfWord
  split <;> rfl

theorem ne_reserved_of_isWordChar (h : isWordChar c = true) :
    c ≠ '(' ∧ c ≠ ')' ∧ c ≠ ':' ∧ isQuote c = false := by
  simp only [isWordChar, Bool.and_eq_true, Bool.not_eq_true', isReserved, Bool.or_eq_false_iff,
    decide_eq_false_iff_not] at h
  obtain ⟨-, ⟨⟨⟨hopen, hclose⟩, hcolon⟩, hsingle⟩, hdouble⟩ := h
  exact ⟨hopen, hclose, hcolon, by simp [isQuote, hsingle, hdouble]⟩

theorem isWordChar_of_ne_reserved (hb : Text.isBlankChar c = false) (hopen : c ≠ '(')
    (hclose : c ≠ ')') (hcolon : c ≠ ':') (hq : isQuote c = false) : isWordChar c = true := by
  simp only [isQuote, Bool.or_eq_false_iff, decide_eq_false_iff_not] at hq
  simp [isWordChar, isReserved, hb, hopen, hclose, hcolon, hq]

theorem lexeme?_quote (h : isQuote c = true) :
    lexeme? c cs = (readQuoted c cs).map fun (content, taken, rest) =>
      ⟨.quoted (String.ofList content), c :: taken, rest⟩ := by
  obtain rfl | rfl := isQuote_iff.mp h <;> rfl

theorem lexeme?_of_spells {kind : TokenKind} {text : List Char} (h : Spells kind text)
    (hr : EndsBefore kind rest) (htext : c :: cs = text ++ rest) :
    lexeme? c cs = some ⟨kind, text, rest⟩ := by
  cases h with
  | openParenthesis => cases htext; rfl
  | closeParenthesis => cases htext; rfl
  | colon => cases htext; rfl
  | @quoted quote body content mark closed =>
    rw [List.cons_append, List.append_assoc, List.singleton_append] at htext
    cases htext
    rw [lexeme?_quote mark, readQuoted_of_quotes mark closed]
    rfl
  | @word d ds wordChars =>
    cases htext
    exact lexeme?_word wordChars (hr (isWord_kindOfWord _))

theorem exists_spells_of_plain (hb : Text.isBlankChar c = false) (hq : isQuote c = false)
    (cs : List Char) : ∃ kind text rest, Spells kind text ∧ EndsBefore kind rest ∧
      c :: cs = text ++ rest ∧ (rest = cs ∨ rest = cs.dropWhile isWordChar) := by
  by_cases hopen : c = '('
  · subst hopen
    exact ⟨_, _, cs, .openParenthesis, nofun, rfl, .inl rfl⟩
  by_cases hclose : c = ')'
  · subst hclose
    exact ⟨_, _, cs, .closeParenthesis, nofun, rfl, .inl rfl⟩
  by_cases hcolon : c = ':'
  · subst hcolon
    exact ⟨_, _, cs, .colon, nofun, rfl, .inl rfl⟩
  have hc := isWordChar_of_ne_reserved hb hopen hclose hcolon hq
  have wordChars : ∀ x ∈ c :: cs.takeWhile isWordChar, isWordChar x = true :=
    List.forall_mem_cons.mpr ⟨hc, fun x hx => Text.of_mem_takeWhile hx⟩
  exact ⟨_, _, _, .word wordChars, fun _ => .dropWhile isWordChar cs, by simp, .inr rfl⟩

theorem spells_of_lexeme? (hb : Text.isBlankChar c = false) (h : lexeme? c cs = some l) :
    Spells l.kind l.text ∧ EndsBefore l.kind l.rest ∧ c :: cs = l.text ++ l.rest := by
  cases hq : isQuote c with
  | true =>
    rw [lexeme?_quote hq] at h
    obtain ⟨⟨content, taken, rest⟩, hr, h⟩ := Option.map_eq_some_iff.mp h
    cases h
    obtain ⟨body, rfl, rfl, closed⟩ := quotes_of_readQuoted hr
    exact ⟨.quoted hq closed, nofun, by simp⟩
  | false =>
    obtain ⟨kind, text, rest, hs, hr, htext, -⟩ := exists_spells_of_plain hb hq cs
    cases (lexeme?_of_spells hs hr htext).symm.trans h
    exact ⟨hs, hr, htext⟩

theorem Spells.exists_cons {kind : TokenKind} (h : Spells kind cs) : ∃ c more, cs = c :: more ∧
    Text.isBlankChar c = false ∧ (isWordChar c = kind.isWord) := by
  cases h with
  | openParenthesis => exact ⟨'(', [], rfl, by decide, by decide⟩
  | closeParenthesis => exact ⟨')', [], rfl, by decide, by decide⟩
  | colon => exact ⟨':', [], rfl, by decide, by decide⟩
  | @quoted quote body content mark _ =>
    refine ⟨quote, _, rfl, ?_⟩
    rw [TokenKind.isWord]
    · obtain rfl | rfl := isQuote_iff.mp mark <;> decide
    · nofun
    · nofun
  | word wordChars =>
    have hc := wordChars _ List.mem_cons_self
    refine ⟨_, _, rfl, ?_, by rw [hc, isWord_kindOfWord]⟩
    simp only [isWordChar, Bool.and_eq_true, Bool.not_eq_true'] at hc
    exact hc.1

theorem tokenizeFrom_spelled {kind : TokenKind} {text : List Char} {offset : Nat}
    (hs : Spells kind text) (hr : EndsBefore kind rest) :
    tokenizeFrom offset (text ++ rest) =
      (tokenizeFrom (offset + sizeOf text) rest).map (⟨kind, String.ofList text, offset⟩ :: ·) := by
  obtain ⟨c, more, rfl, hb, -⟩ := hs.exists_cons
  exact tokenizeFrom_lexeme hb (lexeme?_of_spells hs hr rfl)

end Lexeme

end Token

end Monitoring
