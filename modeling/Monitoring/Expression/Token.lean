import Monitoring.Expression.ParseError
import Monitoring.Text.Character

namespace Monitoring

inductive Keyword
  | logical (operator : LogicalOperator)
  | negation
  | comparison (operator : ComparisonOperator)
  deriving DecidableEq, Repr

namespace Keyword

def ofWord? (word : String) : Option Keyword :=
  if Text.equalsIgnoringCase word "AND" then some (logical .conjunction)
  else if Text.equalsIgnoringCase word "OR" then some (logical .disjunction)
  else if Text.equalsIgnoringCase word "NOT" then some negation
  else (ComparisonOperator.ofKeyword? word).map comparison

end Keyword

inductive TokenKind
  | openParenthesis
  | closeParenthesis
  | colon
  | word (text : String)
  | quoted (content : String)
  | keyword (keyword : Keyword)
  deriving DecidableEq, Repr

structure Token where
  kind : TokenKind
  text : String
  offset : Nat
  deriving DecidableEq, Repr

namespace Token

def isReserved (c : Char) : Bool :=
  c = '(' || c = ')' || c = ':' || c = '\'' || c = '"'

def isWordChar (c : Char) : Bool := !Text.isBlankChar c && !isReserved c

def kindOfWord (word : String) : TokenKind :=
  match Keyword.ofWord? word with
  | some k => .keyword k
  | none => .word word

structure Lexeme where
  kind : TokenKind
  text : List Char
  rest : List Char

def readQuoted (quote : Char) : List Char → Option (List Char × List Char × List Char)
  | [] => none
  | ['\\'] => none
  | '\\' :: c :: cs =>
    (readQuoted quote cs).map fun (content, taken, rest) => (c :: content, '\\' :: c :: taken, rest)
  | c :: cs =>
    if c = quote then some ([], [c], cs)
    else (readQuoted quote cs).map fun (content, taken, rest) => (c :: content, c :: taken, rest)

def lexeme? (c : Char) (cs : List Char) : Option Lexeme :=
  if c = '(' then some ⟨.openParenthesis, [c], cs⟩
  else if c = ')' then some ⟨.closeParenthesis, [c], cs⟩
  else if c = ':' then some ⟨.colon, [c], cs⟩
  else if c = '\'' || c = '"' then
    (readQuoted c cs).map fun (content, taken, rest) =>
      ⟨.quoted (String.ofList content), c :: taken, rest⟩
  else
    let word := c :: cs.takeWhile isWordChar
    some ⟨kindOfWord (String.ofList word), word, cs.dropWhile isWordChar⟩

theorem readQuoted_length {quote : Char} {cs content taken rest : List Char}
    (h : readQuoted quote cs = some (content, taken, rest)) : rest.length < cs.length := by
  fun_induction readQuoted quote cs generalizing content taken rest with
  | case1 => simp at h
  | case2 => simp at h
  | case3 c cs ih =>
    simp only [Option.map_eq_some_iff, Prod.exists, Prod.mk.injEq] at h
    obtain ⟨a, b, d, hr, _, _, rfl⟩ := h
    have := ih hr
    simp only [List.length_cons]; omega
  | case4 cs _ _ => simp_all
  | case5 c cs _ _ _ ih =>
    simp only [Option.map_eq_some_iff, Prod.exists, Prod.mk.injEq] at h
    obtain ⟨a, b, d, hr, _, _, rfl⟩ := h
    have := ih hr
    simp only [List.length_cons]; omega

theorem lexeme?_length {c : Char} {cs : List Char} {l : Lexeme} (h : lexeme? c cs = some l) :
    l.rest.length < (c :: cs).length := by
  unfold lexeme? at h
  split at h
  · cases h; simp
  split at h
  · cases h; simp
  split at h
  · cases h; simp
  split at h
  · simp only [Option.map_eq_some_iff, Prod.exists] at h
    obtain ⟨a, b, d, hr, rfl⟩ := h
    have := readQuoted_length hr
    simp only [List.length_cons]; omega
  · cases h
    have := (List.dropWhile_sublist isWordChar (l := cs)).length_le
    simp only [List.length_cons]; omega

def tokenizeFrom (offset : Nat) : List Char → Except ParseError (List Token)
  | [] => .ok []
  | c :: cs =>
    if Text.isBlankChar c then tokenizeFrom (offset + c.utf8Size) cs
    else
      match h : lexeme? c cs with
      | none => .error ⟨.unterminatedString, offset⟩
      | some l =>
        have := lexeme?_length h
        let text := String.ofList l.text
        (tokenizeFrom (offset + text.utf8ByteSize) l.rest).map (⟨l.kind, text, offset⟩ :: ·)
  termination_by cs => cs.length
  decreasing_by
    · simp only [List.length_cons]; omega
    · assumption

def tokenize (text : String) : Except ParseError (List Token) := tokenizeFrom 0 text.toList

end Token

end Monitoring
