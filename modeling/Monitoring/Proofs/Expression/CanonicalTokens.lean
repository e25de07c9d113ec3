import Monitoring.Expression.Rendering
import Monitoring.Proofs.Text.Run

namespace Monitoring

namespace Token

open Text (EndsRun)

theorem utf8ByteSize_ofList_cons (c : Char) (cs : List Char) :
    (String.ofList (c :: cs)).utf8ByteSize = c.utf8Size + (String.ofList cs).utf8ByteSize := by
  rw [← List.singleton_append, String.ofList_append, String.utf8ByteSize_append,
    ← String.singleton_eq_ofList, String.utf8ByteSize_singleton]

theorem readQuoted_escapeQuoted (cs rest : List Char) :
    readQuoted '\'' (escapeQuoted cs ++ '\'' :: rest) =
      some (cs, escapeQuoted cs ++ ['\''], rest) := by
  induction cs with
  | nil => simp [escapeQuoted, readQuoted]
  | cons c cs ih =>
    rw [escapeQuoted]
    split
    case isTrue => simp [readQuoted, ih]
    case isFalse h =>
      simp only [Bool.or_eq_true, decide_eq_true_eq, not_or] at h
      simp [readQuoted, ih, h]

theorem lexeme?_word {c : Char} {cs rest : List Char} (hw : ∀ x ∈ c :: cs, isWordChar x = true)
    (hr : EndsRun isWordChar rest) :
    lexeme? c (cs ++ rest) = some ⟨kindOfWord (String.ofList (c :: cs)), c :: cs, rest⟩ := by
  have hc : isReserved c = false := by
    have := hw c List.mem_cons_self
    simp_all [isWordChar]
  have hcs : ∀ x ∈ cs, isWordChar x = true := fun x hx => hw x (List.mem_cons_of_mem c hx)
  simp only [isReserved, Bool.or_eq_false_iff, decide_eq_false_iff_not] at hc
  simp [lexeme?, hc, hr.takeWhile_append hcs, hr.dropWhile_append hcs]

theorem tokenizeFrom_blank {c : Char} {cs : List Char} {offset : Nat}
    (h : Text.isBlankChar c = true) :
    tokenizeFrom offset (c :: cs) = tokenizeFrom (offset + c.utf8Size) cs := by
  rw [tokenizeFrom, if_pos h]

theorem tokenizeFrom_lexeme {c : Char} {cs : List Char} {offset : Nat} {l : Lexeme}
    (hb : Text.isBlankChar c = false) (h : lexeme? c cs = some l) :
    tokenizeFrom offset (c :: cs) =
      (tokenizeFrom (offset + (String.ofList l.text).utf8ByteSize) l.rest).map
        (⟨l.kind, String.ofList l.text, offset⟩ :: ·) := by
  rw [tokenizeFrom, if_neg (by simp [hb])]
  split
  case h_1 hn => cases h.symm.trans hn
  case h_2 hn => cases h.symm.trans hn; rfl

/-- In front of what ends a word, `cs` is read as tokens of the kinds `ks`, wherever it stands. -/
def LexAs (cs : List Char) (ks : List TokenKind) : Prop :=
  ∀ offset rest, EndsRun isWordChar rest → ∃ us, us.map kind = ks ∧
    tokenizeFrom offset (cs ++ rest) =
      (tokenizeFrom (offset + (String.ofList cs).utf8ByteSize) rest).map (us ++ ·)

namespace LexAs

variable {cs ds : List Char} {ks ls : List TokenKind}

theorem lexeme {c : Char} {kind : TokenKind} (hb : Text.isBlankChar c = false)
    (h : ∀ rest, EndsRun isWordChar rest → lexeme? c (cs ++ rest) = some ⟨kind, c :: cs, rest⟩) :
    LexAs (c :: cs) [kind] := by
  intro offset rest hr
  refine ⟨[⟨kind, String.ofList (c :: cs), offset⟩], rfl, ?_⟩
  exact tokenizeFrom_lexeme hb (h rest hr)

theorem append {d : Char} (h : LexAs cs ks) (hd : isWordChar d = false) (hs : LexAs (d :: ds) ls) :
    LexAs (cs ++ d :: ds) (ks ++ ls) := by
  intro offset rest hr
  obtain ⟨us, rfl, hu⟩ := h offset (d :: ds ++ rest) (.cons hd)
  obtain ⟨vs, rfl, hv⟩ := hs (offset + (String.ofList cs).utf8ByteSize) rest hr
  refine ⟨us ++ vs, List.map_append, ?_⟩
  rw [List.append_assoc, hu, hv, String.ofList_append, String.utf8ByteSize_append, ← Nat.add_assoc]
  cases tokenizeFrom _ rest <;> simp [Except.map]

theorem blank {c : Char} (hc : Text.isBlankChar c = true) (h : LexAs cs ks) :
    LexAs (c :: cs) ks := by
  intro offset rest hr
  obtain ⟨us, hk, hu⟩ := h (offset + c.utf8Size) rest hr
  refine ⟨us, hk, ?_⟩
  rw [List.cons_append, tokenizeFrom_blank hc, hu, utf8ByteSize_ofList_cons, ← Nat.add_assoc]

theorem punctuation {c : Char} {kind : TokenKind} (hb : Text.isBlankChar c = false)
    (hc : ∀ more, lexeme? c more = some ⟨kind, [c], more⟩) (h : LexAs cs ks) :
    LexAs (c :: cs) (kind :: ks) := by
  intro offset rest hr
  obtain ⟨us, rfl, hu⟩ := h (offset + c.utf8Size) rest hr
  refine ⟨⟨kind, String.ofList [c], offset⟩ :: us, rfl, ?_⟩
  rw [List.cons_append, tokenizeFrom_lexeme hb (hc (cs ++ rest)), utf8ByteSize_ofList_cons,
    String.ofList_nil, String.utf8ByteSize_empty, Nat.add_zero, hu, utf8ByteSize_ofList_cons,
    ← Nat.add_assoc]
  cases tokenizeFrom _ rest <;> simp [Except.map]

theorem openParenthesis (h : LexAs cs ks) : LexAs ('(' :: cs) (.openParenthesis :: ks) :=
  h.punctuation (by decide) fun _ => rfl

theorem colon (h : LexAs cs ks) : LexAs (':' :: cs) (.colon :: ks) :=
  h.punctuation (by decide) fun _ => rfl

theorem closeParenthesis : LexAs [')'] [.closeParenthesis] :=
  lexeme (by decide) fun _ _ => rfl

theorem word {c : Char} (h : ∀ x ∈ c :: cs, isWordChar x = true) :
    LexAs (c :: cs) [kindOfWord (String.ofList (c :: cs))] := by
  have hc : Text.isBlankChar c = false := by
    have := h c List.mem_cons_self
    simp_all [isWordChar]
  exact lexeme hc fun rest hr => lexeme?_word h hr

theorem keyword {w : String} {kind : TokenKind} (hn : w.toList ≠ [])
    (hw : w.toList.all isWordChar = true) (hk : kindOfWord w = kind) : LexAs w.toList [kind] := by
  subst hk
  cases hl : w.toList with
  | nil => exact absurd hl hn
  | cons c cs =>
    rw [← String.ofList_toList (s := w), hl]
    exact word (by simpa [hl] using hw)

theorem quoted (content : List Char) :
    LexAs ('\'' :: (escapeQuoted content ++ ['\''])) [.quoted (String.ofList content)] := by
  apply lexeme (by decide)
  intro rest _
  simp [lexeme?, readQuoted_escapeQuoted]

theorem tokenize (h : LexAs cs ks) :
    ∃ ts, tokenize (String.ofList cs) = .ok ts ∧ ts.map kind = ks := by
  obtain ⟨us, hk, hu⟩ := h 0 [] .nil
  refine ⟨us, ?_, hk⟩
  simp only [List.append_nil, tokenizeFrom, Except.map] at hu
  rw [Token.tokenize, String.toList_ofList, hu]

end LexAs

def operandKind (text : String) : TokenKind :=
  if needsQuotes text then .quoted text else .word text

theorem LexAs.operand (text : String) : LexAs (operandChars text) [operandKind text] := by
  unfold operandChars operandKind
  split
  case isTrue =>
    have := LexAs.quoted text.toList
    rwa [String.ofList_toList] at this
  case isFalse h =>
    simp only [needsQuotes, Bool.or_eq_true, not_or, Bool.not_eq_true] at h
    obtain ⟨⟨nonempty, wordChars⟩, noKeyword⟩ := h
    apply LexAs.keyword
    · simpa using nonempty
    · simpa using wordChars
    · simp only [Option.isSome_eq_false_iff, Option.isNone_iff_eq_none] at noKeyword
      simp [kindOfWord, noKeyword]

theorem LexAs.comparisonOperator (operator : ComparisonOperator) :
    LexAs (Text.asciiLower operator.keyword).toList [.keyword (.comparison operator)] := by
  apply LexAs.keyword <;> cases operator <;> decide

theorem LexAs.logicalOperator (operator : LogicalOperator) :
    LexAs (Text.asciiLower operator.keyword).toList [.keyword (.logical operator)] := by
  apply LexAs.keyword <;> cases operator <;> decide

theorem LexAs.negation : LexAs "not".toList [.keyword .negation] := by
  apply LexAs.keyword <;> decide

theorem LexAs.entity (entity : Entity) : LexAs entity.keyword.toList [.word entity.keyword] := by
  apply LexAs.keyword <;> cases entity <;> decide

end Token

open Token

namespace Comparison

def entityKinds : Option Entity → List TokenKind
  | some e => [.word e.keyword, .colon]
  | none => []

def valueKinds : Option String → List TokenKind
  | some v => [operandKind v]
  | none => []

def kinds (c : Comparison) : List TokenKind :=
  entityKinds c.entity ++
    operandKind c.tag :: .keyword (.comparison c.operator) :: valueKinds c.value

theorem lexAs_chars (c : Comparison) : LexAs c.chars c.kinds := by
  have hvalue : LexAs ((Text.asciiLower c.operator.keyword).toList ++ valueChars c.value)
      (.keyword (.comparison c.operator) :: valueKinds c.value) := by
    cases c.value with
    | none => simpa [valueChars, valueKinds] using LexAs.comparisonOperator c.operator
    | some v =>
      exact (LexAs.comparisonOperator c.operator).append (by decide)
        ((LexAs.operand v).blank (by decide))
  have htag := (LexAs.operand c.tag).append (by decide)
    (hvalue.blank (show Text.isBlankChar ' ' = true by decide))
  rw [chars, kinds]
  cases c.entity with
  | none => exact htag
  | some e =>
    simpa [entityChars, entityKinds] using (LexAs.entity e).append (by decide) htag.colon

end Comparison

namespace Expression

def parenthesizedKinds (ks : List TokenKind) : List TokenKind :=
  .openParenthesis :: (ks ++ [.closeParenthesis])

def kinds : Expression → List TokenKind
  | logical op l r =>
    let left := if l.bindsLooser op then parenthesizedKinds l.kinds else l.kinds
    let right := if r.bindsLooser op then parenthesizedKinds r.kinds else r.kinds
    left ++ .keyword (.logical op) :: right
  | negation e => .keyword .negation :: if e.isLogical then parenthesizedKinds e.kinds else e.kinds
  | comparison c => c.kinds

theorem lexAs_parenthesized {cs : List Char} {ks : List TokenKind} (h : LexAs cs ks) :
    LexAs (parenthesized cs) (parenthesizedKinds ks) :=
  (h.append (by decide) .closeParenthesis).openParenthesis

theorem lexAs_parenthesizedIf {cs : List Char} {ks : List TokenKind} (h : LexAs cs ks)
    (condition : Bool) :
    LexAs (if condition then parenthesized cs else cs)
      (if condition then parenthesizedKinds ks else ks) := by
  cases condition with
  | false => exact h
  | true => exact lexAs_parenthesized h

theorem lexAs_chars (e : Expression) : LexAs e.chars e.kinds := by
  induction e with
  | logical op l r ihl ihr =>
    have blank : Text.isBlankChar ' ' = true := by decide
    have hr := (lexAs_parenthesizedIf ihr (r.bindsLooser op)).blank blank
    have ho := ((LexAs.logicalOperator op).append (by decide) hr).blank blank
    exact (lexAs_parenthesizedIf ihl (l.bindsLooser op)).append (by decide) ho
  | negation e ih =>
    have he := (lexAs_parenthesizedIf ih e.isLogical).blank
      (show Text.isBlankChar ' ' = true by decide)
    exact LexAs.negation.append (by decide) he
  | comparison c => exact c.lexAs_chars

end Expression

end Monitoring
