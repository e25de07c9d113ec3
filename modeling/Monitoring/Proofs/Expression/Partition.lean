import Mathlib.Data.List.Chain
import Monitoring.Proofs.Expression.Completeness
import Monitoring.Proofs.Expression.UnclosedQuotes

/-!
Texts as tokens with white space around them. Tokens are read from a text exactly if the text is
made of them in this way, so the white space can be any that keeps words apart.
-/

namespace Monitoring.Token

open Text (EndsRun isBlankChar)

def charsOf (tail : List Char) : List (List Char × Token) → List Char
  | [] => tail
  | (gap, t) :: more => gap ++ (t.text.toList ++ charsOf tail more)

def placedFrom (offset : Nat) : List (List Char × Token) → List Token
  | [] => []
  | (gap, t) :: more =>
    { t with offset := offset + sizeOf gap } ::
      placedFrom (offset + sizeOf gap + sizeOf t.text.toList) more

def Apart (t u : List Char × Token) : Prop :=
  t.2.kind.isWord = true → u.2.kind.isWord = true → u.1 ≠ []

/-- Tokens with white space in front of each and behind the last, which keeps words apart. -/
structure Spaced where
  items : List (List Char × Token)
  tail : List Char
  blank_tail : ∀ c ∈ tail, isBlankChar c = true
  blank : ∀ item ∈ items, ∀ c ∈ item.1, isBlankChar c = true
  apart : items.IsChain Apart

namespace Spaced

def tokens (s : Spaced) : List Token := s.items.map Prod.snd

def placed (s : Spaced) : List Token := placedFrom 0 s.items

def text (s : Spaced) : String := String.ofList (charsOf s.tail s.items)

end Spaced

section Spelled

variable {offset : Nat} {cs gap rest tail : List Char} {kind : TokenKind}
variable {items : List (List Char × Token)} {ts : List Token}

theorem isWordChar_of_isBlankChar {c : Char} (h : isBlankChar c = true) : isWordChar c = false := by
  simp [isWordChar, h]

theorem endsRun_of_blank (h : ∀ c ∈ gap, isBlankChar c = true) : EndsRun isWordChar gap := by
  rintro c more rfl
  exact isWordChar_of_isBlankChar (h c List.mem_cons_self)

theorem endsBefore_charsOf {item : List Char × Token}
    (hs : ∀ item ∈ items, Spells item.2.kind item.2.text.toList)
    (ht : ∀ c ∈ tail, isBlankChar c = true)
    (hb : ∀ item ∈ items, ∀ c ∈ item.1, isBlankChar c = true)
    (ha : (item :: items).IsChain Apart) : EndsBefore item.2.kind (charsOf tail items) := by
  intro hword
  cases items with
  | nil => exact endsRun_of_blank ht
  | cons next more =>
    obtain ⟨gap, t⟩ := next
    have hgap := hb _ List.mem_cons_self
    have hspells := hs _ List.mem_cons_self
    cases gap with
    | cons c gap => exact .cons (isWordChar_of_isBlankChar (hgap c List.mem_cons_self))
    | nil =>
      obtain ⟨c, text, htext, -, hc⟩ := hspells.exists_cons
      have hnot : t.kind.isWord = false := by
        by_contra h
        exact (List.isChain_cons_cons.mp ha).1 hword (by simpa using h) rfl
      simp only [charsOf] at htext ⊢
      rw [htext]
      exact .cons (hc.trans hnot)

theorem tokenizeFrom_gap (h : ∀ c ∈ gap, isBlankChar c = true) :
    tokenizeFrom offset (gap ++ cs) = tokenizeFrom (offset + sizeOf gap) cs := by
  induction gap generalizing offset with
  | nil => rfl
  | cons c gap ih =>
    obtain ⟨hc, hgap⟩ := List.forall_mem_cons.mp h
    rw [List.cons_append, tokenizeFrom_blank hc, ih hgap, sizeOf_cons, Nat.add_assoc]

theorem tokenizeFrom_charsOf (hs : ∀ item ∈ items, Spells item.2.kind item.2.text.toList)
    (ht : ∀ c ∈ tail, isBlankChar c = true)
    (hb : ∀ item ∈ items, ∀ c ∈ item.1, isBlankChar c = true) (ha : items.IsChain Apart) :
    tokenizeFrom offset (charsOf tail items) = .ok (placedFrom offset items) := by
  induction items generalizing offset with
  | nil =>
    have h : tokenizeFrom offset (tail ++ []) = tokenizeFrom (offset + sizeOf tail) [] :=
      tokenizeFrom_gap ht
    rw [List.append_nil] at h
    rw [charsOf, h, tokenizeFrom, placedFrom]
  | cons item items ih =>
    have hends :=
      endsBefore_charsOf (List.forall_mem_cons.mp hs).2 ht (List.forall_mem_cons.mp hb).2 ha
    have hmore (offset) := @ih offset (List.forall_mem_cons.mp hs).2
      (List.forall_mem_cons.mp hb).2 ha.tail
    obtain ⟨gap, t⟩ := item
    rw [charsOf, tokenizeFrom_gap (hb _ List.mem_cons_self),
      tokenizeFrom_spelled (hs _ List.mem_cons_self) hends, hmore, String.ofList_toList]
    rfl

theorem Spaced.exists_indent {c : Char} (hc : isBlankChar c = true) (s : Spaced) :
    ∃ s' : Spaced, s'.tokens = s.tokens ∧ charsOf s'.tail s'.items = c :: charsOf s.tail s.items ∧
      ∀ offset, placedFrom offset s'.items = placedFrom (offset + c.utf8Size) s.items := by
  obtain ⟨items, tail, htail, hb, ha⟩ := s
  cases items with
  | nil => exact ⟨⟨[], c :: tail, List.forall_mem_cons.mpr ⟨hc, htail⟩, nofun, .nil⟩, rfl, rfl,
      fun _ => rfl⟩
  | cons item items =>
    obtain ⟨gap, t⟩ := item
    obtain ⟨hgap, hmore⟩ := List.forall_mem_cons.mp hb
    refine ⟨⟨(c :: gap, t) :: items, tail, htail, ?_, ?_⟩, rfl, rfl, fun offset => ?_⟩
    · exact List.forall_mem_cons.mpr ⟨List.forall_mem_cons.mpr ⟨hc, hgap⟩, hmore⟩
    · exact List.IsChain.imp_head (x := (gap, t)) (y := (c :: gap, t)) (fun h => h) ha
    · simp only [placedFrom, sizeOf_cons, Nat.add_assoc]

theorem exists_spaced_of_tokenizeFrom (h : tokenizeFrom offset cs = .ok ts) :
    ∃ s : Spaced, s.tokens = ts ∧ placedFrom offset s.items = ts ∧
      charsOf s.tail s.items = cs ∧ ∀ t ∈ ts, Spells t.kind t.text.toList := by
  fun_induction tokenizeFrom offset cs generalizing ts with
  | case1 offset =>
    cases h
    exact ⟨⟨[], [], List.forall_mem_nil _, List.forall_mem_nil _, .nil⟩, rfl, rfl, rfl,
      List.forall_mem_nil _⟩
  | case2 offset c cs hblank ih =>
    obtain ⟨s, htokens, hplaced, rfl, hs⟩ := ih h
    obtain ⟨s', htokens', hchars', hplaced'⟩ := s.exists_indent hblank
    exact ⟨s', htokens'.trans htokens, (hplaced' offset).trans hplaced, hchars', hs⟩
  | case3 offset c cs hblank hnone => cases h
  | case4 offset c cs hblank l hl _ text =>
    rename_i ih
    obtain ⟨us, hus, rfl⟩ := Result.map_eq_ok_iff.mp h
    obtain ⟨⟨items, tail, htail, hb, ha⟩, rfl, hplaced, hcs, hs⟩ := ih hus
    obtain ⟨hspells, hends, htext⟩ := spells_of_lexeme? (by simpa using hblank) hl
    let t : Token := ⟨l.kind, text, offset⟩
    have hapart : ∀ next ∈ items.head?, Apart ([], t) next := by
      rintro ⟨gap, u⟩ hnext hword hnextWord rfl
      obtain ⟨more, rfl⟩ := List.head?_eq_some_iff.mp hnext
      obtain ⟨d, ds, hd, -, hdWord⟩ := (hs u List.mem_cons_self).exists_cons
      simp only [charsOf, List.nil_append, hd] at hcs
      have := hends hword d _ hcs.symm
      simp [hdWord, hnextWord] at this
    have hblanks : ∀ item ∈ ([], t) :: items, ∀ c ∈ item.1, isBlankChar c = true :=
      List.forall_mem_cons.mpr ⟨List.forall_mem_nil _, hb⟩
    refine ⟨⟨([], t) :: items, tail, htail, hblanks, ha.cons hapart⟩, rfl, ?_, ?_,
      List.forall_mem_cons.mpr ⟨?_, hs⟩⟩
    · rw [placedFrom, sizeOf_nil, Nat.add_zero, sizeOf_toList, hplaced]
    · rw [charsOf, List.nil_append, hcs, String.toList_ofList, htext]
    · rw [String.toList_ofList]
      exact hspells

theorem exists_slice (hs : ∀ item ∈ items, Spells item.2.kind item.2.text.toList)
    (ht : ∀ c ∈ tail, isBlankChar c = true)
    (hb : ∀ item ∈ items, ∀ c ∈ item.1, isBlankChar c = true) (ha : items.IsChain Apart) :
    ∀ t ∈ placedFrom offset items, ∃ before after,
      charsOf tail items = before ++ (t.text.toList ++ after) ∧
        t.offset = offset + sizeOf before ∧ EndsBefore t.kind after := by
  induction items generalizing offset with
  | nil => nofun
  | cons item items ih =>
    have hends :=
      endsBefore_charsOf (List.forall_mem_cons.mp hs).2 ht (List.forall_mem_cons.mp hb).2 ha
    obtain ⟨gap, t⟩ := item
    rw [placedFrom, List.forall_mem_cons]
    refine ⟨⟨gap, charsOf tail items, rfl, rfl, hends⟩, fun u hu => ?_⟩
    obtain ⟨before, after, hcs, hoffset, hu⟩ :=
      ih (List.forall_mem_cons.mp hs).2 (List.forall_mem_cons.mp hb).2 ha.tail u hu
    refine ⟨gap ++ (t.text.toList ++ before), after, ?_, ?_, hu⟩
    · rw [charsOf, hcs]
      simp only [List.append_assoc]
    · rw [hoffset, sizeOf_append, sizeOf_append]
      omega

theorem le_offset_of_mem_placedFrom : ∀ t ∈ placedFrom offset items, offset ≤ t.offset := by
  induction items generalizing offset with
  | nil => nofun
  | cons item items ih =>
    obtain ⟨gap, t⟩ := item
    rw [placedFrom, List.forall_mem_cons]
    refine ⟨Nat.le_add_right _ _, fun u hu => ?_⟩
    have := ih u hu
    omega

theorem pairwise_placedFrom (hs : ∀ item ∈ items, Spells item.2.kind item.2.text.toList) :
    (placedFrom offset items).Pairwise fun t u => t.offset < u.offset := by
  induction items generalizing offset with
  | nil => exact .nil
  | cons item items ih =>
    obtain ⟨hspells, hmore⟩ := List.forall_mem_cons.mp hs
    obtain ⟨gap, t⟩ := item
    obtain ⟨c, more, htext, -⟩ := hspells.exists_cons
    refine List.pairwise_cons.mpr ⟨fun u hu => ?_, ih hmore⟩
    have hpos : 0 < sizeOf t.text.toList := sizeOf_pos (by simp [htext])
    have := le_offset_of_mem_placedFrom u hu
    change offset + sizeOf gap < u.offset
    omega

end Spelled

section Texts

variable {text : String} {ts : List Token}

theorem exists_spaced_of_tokenize (h : tokenize text = .ok ts) :
    ∃ s : Spaced, s.tokens = ts ∧ s.placed = ts ∧ s.text = text ∧
      ∀ t ∈ ts, Spells t.kind t.text.toList := by
  obtain ⟨s, htokens, hplaced, hchars, hs⟩ := exists_spaced_of_tokenizeFrom h
  exact ⟨s, htokens, hplaced, by rw [Spaced.text, hchars, String.ofList_toList], hs⟩

theorem Spaced.spells_items {s : Spaced} (hs : ∀ t ∈ s.tokens, Spells t.kind t.text.toList) :
    ∀ item ∈ s.items, Spells item.2.kind item.2.text.toList :=
  fun _ hm => hs _ (List.mem_map_of_mem hm)

theorem Spaced.tokenize_text {s : Spaced} (hs : ∀ t ∈ s.tokens, Spells t.kind t.text.toList) :
    tokenize s.text = .ok s.placed := by
  rw [tokenize, Spaced.text, String.toList_ofList]
  exact tokenizeFrom_charsOf (spells_items hs) s.blank_tail s.blank s.apart

theorem map_kind_placedFrom {offset : Nat} {items : List (List Char × Token)} :
    (placedFrom offset items).map kind = (items.map Prod.snd).map kind := by
  induction items generalizing offset with
  | nil => rfl
  | cons item items ih => simp only [placedFrom, List.map_cons, ih]

theorem Spaced.map_kind_placed (s : Spaced) : s.placed.map kind = s.tokens.map kind :=
  map_kind_placedFrom

theorem Spaced.pairwise_placed {s : Spaced} (hs : ∀ t ∈ s.tokens, Spells t.kind t.text.toList) :
    s.placed.Pairwise fun t u => t.offset < u.offset :=
  pairwise_placedFrom (spells_items hs)

theorem Spaced.exists_slice {s : Spaced} (hs : ∀ t ∈ s.tokens, Spells t.kind t.text.toList) :
    ∀ t ∈ s.placed, ∃ before after, s.text = before ++ t.text ++ after ∧
      t.offset = before.utf8ByteSize ∧ EndsBefore t.kind after.toList := by
  intro t ht
  obtain ⟨before, after, hcs, hoffset, hends⟩ :=
    Token.exists_slice (spells_items hs) s.blank_tail s.blank s.apart t ht
  refine ⟨String.ofList before, String.ofList after, ?_, ?_, ?_⟩
  · rw [Spaced.text, hcs, String.ofList_append, String.ofList_append, String.ofList_toList,
      String.append_assoc]
  · rw [hoffset, Nat.zero_add, sizeOf]
  · rwa [String.toList_ofList]

theorem pairwise_of_tokenize (h : tokenize text = .ok ts) :
    ts.Pairwise fun t u => t.offset < u.offset := by
  obtain ⟨s, rfl, hplaced, -, hs⟩ := exists_spaced_of_tokenize h
  have hpairwise := Spaced.pairwise_placed hs
  rwa [hplaced] at hpairwise

theorem offset_lt_of_tokenize (h : tokenize text = .ok ts) :
    ∀ t ∈ ts, t.offset < text.utf8ByteSize := by
  obtain ⟨s, rfl, hplaced, rfl, hs⟩ := exists_spaced_of_tokenize h
  intro t ht
  obtain ⟨before, after, htext, hoffset, -⟩ := Spaced.exists_slice hs t (hplaced.symm ▸ ht)
  obtain ⟨c, more, hc, -⟩ := (hs t ht).exists_cons
  have hpos : 0 < sizeOf t.text.toList := sizeOf_pos (by simp [hc])
  rw [sizeOf_toList] at hpos
  rw [htext, String.utf8ByteSize_append, String.utf8ByteSize_append]
  omega

end Texts

end Monitoring.Token

namespace Monitoring.Expression

theorem parse_congr {text text' : String} {ts ts' : List Token} {e : Expression}
    (ht : Token.tokenize text = .ok ts) (ht' : Token.tokenize text' = .ok ts')
    (hk : ts'.map Token.kind = ts.map Token.kind) : parse text' = .ok e ↔ parse text = .ok e := by
  rw [parse, parse, ht, ht', Result.ok_bind, Result.ok_bind, ofTokens_eq_ok_iff (by decide),
    ofTokens_eq_ok_iff (by decide), hk]

/-- A text that is read as tokens is made of them, at ascending offsets, with white space around
them, and no word goes on behind its token; with any other white space that keeps words apart the
same tokens are read, at the offsets where they then are. The only texts not read as tokens have
a quote that is not closed, and the first such quote is reported. -/
theorem tokenize_accounts_for_text (text : String) :
    (∀ ts, Token.tokenize text = .ok ts →
      ts.Pairwise (fun t u => t.offset < u.offset) ∧
      (∀ t ∈ ts, ∃ before after, text = before ++ t.text ++ after ∧
        t.offset = before.utf8ByteSize ∧
        (t.kind.isWord = true → Text.EndsRun Token.isWordChar after.toList)) ∧
      (∃ s : Token.Spaced, s.tokens = ts ∧ s.placed = ts ∧ s.text = text) ∧
      ∀ s : Token.Spaced, s.tokens = ts → Token.tokenize s.text = .ok s.placed ∧
        s.placed.map Token.kind = ts.map Token.kind ∧
        ∀ e, parse s.text = .ok e ↔ parse text = .ok e) ∧
    ∀ e, Token.tokenize text = .error e ↔ ∃ before quote after,
      text = String.ofList (before ++ quote :: after) ∧ Token.isQuote quote = true ∧
        Token.Outside before ∧ Token.Unclosed quote after ∧
        e = ⟨.unterminatedString, (String.ofList before).utf8ByteSize⟩ := by
  refine ⟨fun ts ht => ?_, fun e => ?_⟩
  · obtain ⟨s, rfl, hplaced, rfl, hs⟩ := Token.exists_spaced_of_tokenize ht
    have hpairwise := Token.Spaced.pairwise_placed hs
    have hslice := Token.Spaced.exists_slice hs
    rw [hplaced] at hpairwise hslice
    refine ⟨hpairwise, hslice, ⟨s, rfl, hplaced, rfl⟩, fun s' htokens => ?_⟩
    have ht' := Token.Spaced.tokenize_text (htokens ▸ hs)
    have hk : s'.placed.map Token.kind = s.tokens.map Token.kind := by
      rw [s'.map_kind_placed, htokens]
    exact ⟨ht', hk, fun e => parse_congr ht ht' hk⟩
  · constructor
    · intro h
      obtain ⟨before, quote, after, hcs, hq, ho, hu, he⟩ := Token.exists_unclosed_of_tokenizeFrom h
      rw [Nat.zero_add] at he
      exact ⟨before, quote, after, by rw [← hcs, String.ofList_toList], hq, ho, hu, he⟩
    · rintro ⟨before, quote, after, rfl, hq, ho, hu, rfl⟩
      rw [Token.tokenize, String.toList_ofList, Token.tokenizeFrom_of_unclosed ho hq hu,
        Nat.zero_add]
      rfl

def zoneTokens : List Token :=
  [⟨.word "zone", "zone", 0⟩, ⟨.keyword (.comparison .equals), "Equals", 5⟩,
   ⟨.quoted "it's", "'it\\'s'", 11⟩]

def zoneItems : List (List Char × Token) :=
  [(['\t'], ⟨.word "zone", "zone", 0⟩),
   ([' ', '\u2003'], ⟨.keyword (.comparison .equals), "Equals", 5⟩),
   (['\n'], ⟨.quoted "it's", "'it\\'s'", 11⟩)]

def zoneSpaced : Token.Spaced where
  items := zoneItems
  tail := [' ']
  blank_tail := List.all_eq_true.mp (by decide)
  blank := by
    have h : (zoneItems.all fun item => item.1.all Text.isBlankChar) = true := by decide
    simpa only [List.all_eq_true] using h
  apart := .cons_cons nofun (.cons_cons nofun (.singleton _))

theorem tokenize_accounts_for_zone :
    Token.tokenize "zone Equals'it\\'s'" = .ok zoneTokens ∧
    (∃ t ∈ zoneTokens, t.offset = "zone ".utf8ByteSize) ∧
    Token.tokenize "\tzone \u2003Equals\n'it\\'s' " = .ok
      [⟨.word "zone", "zone", 1⟩, ⟨.keyword (.comparison .equals), "Equals", 9⟩,
       ⟨.quoted "it's", "'it\\'s'", 16⟩] ∧
    (∀ e, parse "\tzone \u2003Equals\n'it\\'s' " = .ok e ↔ parse "zone Equals'it\\'s'" = .ok e) ∧
    Token.tokenize "zone Equals 'it\\'s" = .error ⟨.unterminatedString, 12⟩ := by
  have ht : Token.tokenize "zone Equals'it\\'s'" = .ok zoneTokens := by decide +kernel
  obtain ⟨-, -, -, hspaced⟩ := (tokenize_accounts_for_text _).1 _ ht
  obtain ⟨hread, -, hparse⟩ := hspaced zoneSpaced rfl
  refine ⟨ht, ⟨_, List.mem_cons_of_mem _ List.mem_cons_self, rfl⟩, hread, hparse, ?_⟩
  refine ((tokenize_accounts_for_text _).2 _).mpr
    ⟨"zone Equals ".toList, '\'', "it\\'s".toList, rfl, rfl, ?_, ?_, rfl⟩
  · rw [← List.append_nil "zone Equals ".toList]
    have hplain : ("zone Equals ".toList.all fun c => !Token.isQuote c) = true := by decide
    exact .append_of_plain (by simpa only [List.all_eq_true, Bool.not_eq_true'] using hplain) .nil
  · exact (Token.readQuoted_eq_none_iff rfl).mp rfl

end Monitoring.Expression
