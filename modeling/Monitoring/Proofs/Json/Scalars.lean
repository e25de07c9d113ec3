import Monitoring.Json.Printer
import Monitoring.Json.Reader
import Monitoring.Proofs.Text.Run

namespace Monitoring.Json

open Text (takeDigits_append)

def outcome {α : Type} (reader : Reader α) (cs : List Char) : Option (α × List Char) :=
  (reader cs).map fun t => (t.value, t.rest)

section Strings

variable {c : Char} {more rest : List Char}

def consContent (c : Char) (r : List Char × List Char) : List Char × List Char := (c :: r.1, r.2)

theorem takeString_quote : outcome takeString ('"' :: more) = some ([], more) := by
  rw [outcome, takeString, if_pos rfl]
  rfl

theorem takeString_escape (h : takeEscape more = some (c, rest)) :
    outcome takeString ('\\' :: more) = (outcome takeString rest).map (consContent c) := by
  rw [outcome, takeString, if_neg (by decide), if_pos rfl]
  split
  case h_1 hn => cases h.symm.trans hn
  case h_2 hs =>
    cases h.symm.trans hs
    rw [outcome]
    cases takeString rest <;> rfl

theorem takeString_plain (hq : c ≠ '"') (hb : c ≠ '\\') (hc : ¬c.toNat < 0x20) :
    outcome takeString (c :: more) = (outcome takeString more).map (consContent c) := by
  rw [outcome, outcome, takeString, if_neg hq, if_neg hb, if_neg hc]
  cases takeString more <;> rfl

theorem hexDigit?_digitChar : ∀ n < 16, Text.hexDigit? n.digitChar = some n := by decide

theorem takeEscape_control (h : c.toNat < 0x20) :
    takeEscape ('u' :: '0' :: '0' :: (c.toNat / 16).digitChar :: (c.toNat % 16).digitChar :: rest) =
      some (c, rest) := by
  have high := hexDigit?_digitChar (c.toNat / 16) (by omega)
  have low := hexDigit?_digitChar (c.toNat % 16) (by omega)
  have zero : Text.hexDigit? '0' = some 0 := by decide
  have hunit : 16 * (c.toNat / 16) + c.toNat % 16 = c.toNat := Nat.div_add_mod c.toNat 16
  have hpair : takePair c.toNat rest = some (c, rest) := by
    unfold takePair
    rw [if_neg (by omega), if_neg (by omega), Char.ofNat_toNat]
  simp [takeEscape, takeCodeUnit, Text.takeHex, zero, high, low, hunit, hpair]

theorem charText_cases (c : Char) :
    (∃ escape, charText c = '\\' :: escape ∧
      ∀ rest, takeEscape (escape ++ rest) = some (c, rest)) ∨
    (charText c = [c] ∧ c ≠ '"' ∧ c ≠ '\\' ∧ ¬c.toNat < 0x20) := by
  unfold charText
  split
  case isTrue h =>
    subst h
    exact .inl ⟨_, rfl, fun rest => rfl⟩
  split
  case isTrue h =>
    subst h
    exact .inl ⟨_, rfl, fun rest => rfl⟩
  split
  case isTrue h =>
    subst h
    exact .inl ⟨_, rfl, fun rest => rfl⟩
  split
  case isTrue h =>
    subst h
    exact .inl ⟨_, rfl, fun rest => rfl⟩
  split
  case isTrue h =>
    subst h
    exact .inl ⟨_, rfl, fun rest => rfl⟩
  split
  case isTrue h =>
    obtain rfl : c = '\x08' := Char.toNat_inj.mp h
    exact .inl ⟨_, rfl, fun rest => rfl⟩
  split
  case isTrue h =>
    obtain rfl : c = '\x0c' := Char.toNat_inj.mp h
    exact .inl ⟨_, rfl, fun rest => rfl⟩
  split
  case isTrue h => exact .inl ⟨_, rfl, fun rest => takeEscape_control h⟩
  case isFalse hq hb _ _ _ _ _ hc => exact .inr ⟨rfl, hq, hb, hc⟩

theorem takeString_charText :
    outcome takeString (charText c ++ rest) = (outcome takeString rest).map (consContent c) := by
  obtain ⟨escape, h, he⟩ | ⟨h, hq, hb, hc⟩ := charText_cases c
  · rw [h]
    exact takeString_escape (he rest)
  · rw [h]
    exact takeString_plain hq hb hc

theorem takeString_quoted (cs rest : List Char) :
    outcome takeString (cs.flatMap charText ++ '"' :: rest) = some (cs, rest) := by
  induction cs with
  | nil => exact takeString_quote
  | cons c cs ih =>
    rw [List.flatMap_cons, List.append_assoc, takeString_charText, ih]
    rfl

theorem takeScalar_quote :
    outcome takeScalar ('"' :: more) =
      (outcome takeString more).map fun t => (.string (String.ofList t.1), t.2) := by
  change Option.map _ (Option.map _ (takeString more)) = Option.map _ (Option.map _ _)
  cases takeString more <;> rfl

theorem takeScalar_quoted (s : String) (rest : List Char) :
    outcome takeScalar (quoted s ++ rest) = some (.string s, rest) := by
  have h := takeString_quoted s.toList rest
  have htext : quoted s ++ rest = '"' :: (s.toList.flatMap charText ++ '"' :: rest) := by
    simp only [quoted, List.cons_append, List.append_assoc, List.nil_append]
  rw [htext, takeScalar_quote, h, Option.map_some, String.ofList_toList]

end Strings

section Numbers

variable {c : Char} {cs ds rest : List Char} {n : Nat}

def EndsNumber (rest : List Char) : Prop :=
  ∀ c more, rest = c :: more → c.isDigit = false ∧ c ≠ '.' ∧ c ≠ 'e' ∧ c ≠ 'E'

theorem endsNumber_nil : EndsNumber [] := nofun

theorem endsNumber_cons {more : List Char}
    (h : c.isDigit = false ∧ c ≠ '.' ∧ c ≠ 'e' ∧ c ≠ 'E') : EndsNumber (c :: more) := by
  rintro _ _ ⟨⟩
  exact h

theorem EndsNumber.digits (h : EndsNumber rest) : Text.EndsRun Char.isDigit rest :=
  fun c more hr => (h c more hr).1

structure NumberParts.Proper (p : NumberParts) : Prop where
  leading : p.whole = ['0'] ∨ ∃ d ds, p.whole = d :: ds ∧ d ≠ '0'
  whole : ∀ c ∈ p.whole, c.isDigit = true
  fraction : ∀ digits ∈ p.fraction, digits ≠ [] ∧ ∀ c ∈ digits, c.isDigit = true
  exponent : ∀ e ∈ p.exponent, (∀ sign ∈ e.1, sign = '+' ∨ sign = '-') ∧ e.2 ≠ [] ∧
    ∀ c ∈ e.2, c.isDigit = true

theorem NumberParts.Proper.exists_cons {p : NumberParts} (h : p.Proper) :
    ∃ d ds, p.whole = d :: ds ∧ d.isDigit = true := by
  cases hw : p.whole with
  | nil =>
    rcases h.leading with h | ⟨d, ds, h, -⟩ <;> cases hw.symm.trans h
  | cons d ds => exact ⟨d, ds, rfl, h.whole d (hw ▸ List.mem_cons_self)⟩

def fractionText : Option (List Char) → List Char
  | some digits => '.' :: digits
  | none => []

def exponentText : Option (Option Char × List Char) → List Char
  | some (some sign, digits) => 'e' :: sign :: digits
  | some (none, digits) => 'e' :: digits
  | none => []

theorem takeWhole_append (hl : ds = ['0'] ∨ ∃ d more, ds = d :: more ∧ d ≠ '0')
    (hd : ∀ c ∈ ds, c.isDigit = true) (hr : Text.EndsRun Char.isDigit rest) :
    takeWhole (ds ++ rest) = some (ds, rest) := by
  rcases hl with rfl | ⟨d, more, rfl, hne⟩
  · cases rest with
    | nil => rfl
    | cons c more => simp [takeWhole, hr c more rfl]
  · rw [← takeDigits_append (by simp) hd hr]
    unfold takeWhole
    split
    case h_1 heq =>
      simp only [List.cons_append, List.cons.injEq] at heq
      exact absurd heq.1 hne
    case h_2 => rfl

theorem takeFraction_append {fraction : Option (List Char)}
    (hf : ∀ digits ∈ fraction, digits ≠ [] ∧ ∀ c ∈ digits, c.isDigit = true)
    (hr : ∀ c more, rest = c :: more → c.isDigit = false ∧ c ≠ '.') :
    takeFraction (fractionText fraction ++ rest) = some (fraction, rest) := by
  cases fraction with
  | none =>
    rw [fractionText, List.nil_append]
    unfold takeFraction
    split
    case h_1 more => exact absurd rfl (hr '.' more rfl).2
    case h_2 => rfl
  | some digits =>
    obtain ⟨hne, hd⟩ := hf digits rfl
    have hdigits := takeDigits_append hne hd fun c more h => (hr c more h).1
    rw [fractionText, List.cons_append, takeFraction, hdigits]
    rfl

theorem takeExponent_append {exponent : Option (Option Char × List Char)}
    (he : ∀ e ∈ exponent, (∀ sign ∈ e.1, sign = '+' ∨ sign = '-') ∧ e.2 ≠ [] ∧
      ∀ c ∈ e.2, c.isDigit = true) (hr : EndsNumber rest) :
    takeExponent (exponentText exponent ++ rest) = some (exponent, rest) := by
  match exponent with
  | none =>
    rw [exponentText, List.nil_append]
    cases rest with
    | nil => rfl
    | cons c more => simp [takeExponent, (hr c more rfl).2.2]
  | some (some sign, digits) =>
    obtain ⟨hsign, hne, hd⟩ := he _ rfl
    have hdigits := takeDigits_append hne hd hr.digits
    rw [exponentText, List.cons_append, List.cons_append, takeExponent, if_pos (by decide)]
    simp [hsign sign rfl, hdigits]
  | some (none, digits) =>
    obtain ⟨-, hne, hd⟩ := he _ rfl
    have hdigits := takeDigits_append hne hd hr.digits
    obtain ⟨d, more, rfl⟩ := List.exists_cons_of_ne_nil hne
    have hdigit : d.isDigit = true := hd d List.mem_cons_self
    have hsign : ¬(d = '+' ∨ d = '-') := by
      rintro (rfl | rfl) <;> exact absurd hdigit (by decide)
    rw [List.cons_append] at hdigits
    simp [exponentText, takeExponent, hsign, hdigits]

theorem head_exponentText (exponent : Option (Option Char × List Char))
    (hr : EndsNumber rest) :
    ∀ c more, exponentText exponent ++ rest = c :: more → c.isDigit = false ∧ c ≠ '.' := by
  intro c more h
  match exponent with
  | none => exact ⟨(hr c more h).1, (hr c more h).2.1⟩
  | some (some _, _) =>
    cases h
    decide
  | some (none, _) =>
    cases h
    decide

theorem endsRun_fractionText (fraction : Option (List Char))
    (hr : ∀ c more, rest = c :: more → c.isDigit = false ∧ c ≠ '.') :
    Text.EndsRun Char.isDigit (fractionText fraction ++ rest) := by
  cases fraction with
  | none => exact fun c more h => (hr c more h).1
  | some digits => exact .cons (by decide)

theorem NumberParts.text_eq (p : NumberParts) :
    p.text = (if p.negative then ['-'] else []) ++ p.whole ++ fractionText p.fraction ++
      exponentText p.exponent := rfl

theorem takeNumber_text {p : NumberParts} (hp : p.Proper) (hr : EndsNumber rest) :
    takeNumber (p.text ++ rest) = some (p, rest) := by
  have htext := p.text_eq
  obtain ⟨negative, whole, fraction, exponent⟩ := p
  have hafter := head_exponentText exponent hr
  have hwhole := takeWhole_append hp.leading hp.whole (endsRun_fractionText fraction hafter)
  have hfraction := takeFraction_append hp.fraction hafter
  have hexponent := takeExponent_append hp.exponent hr
  rw [htext]
  simp only [List.append_assoc] at hwhole hfraction hexponent ⊢
  cases negative with
  | true => simp [takeNumber, hwhole, hfraction, hexponent]
  | false =>
    have hne : ∀ more, whole ++ (fractionText fraction ++ (exponentText exponent ++ rest)) ≠
        '-' :: more := by
      intro more heq
      obtain ⟨d, ds, rfl, hdigit⟩ := hp.exists_cons
      cases heq
      exact absurd hdigit (by decide)
    simp only [Bool.false_eq_true, if_false, List.nil_append]
    rw [takeNumber]
    · simp [hwhole, hfraction, hexponent]
    · exact hne

theorem head_toDigits (h : 0 < n) : ∃ d ds, Nat.toDigits 10 n = d :: ds ∧ d ≠ '0' := by
  induction n using Nat.strongRecOn with
  | ind n ih =>
    by_cases hn : n < 10
    · refine ⟨n.digitChar, [], Nat.toDigits_of_lt_base hn, ?_⟩
      simpa using Nat.pos_iff_ne_zero.mp h
    · obtain ⟨d, ds, hd, hne⟩ := ih (n / 10) (by omega) (by omega)
      refine ⟨d, ds ++ [(n % 10).digitChar], ?_, hne⟩
      rw [Nat.toDigits_of_base_le (by decide) (by omega), hd]
      rfl

theorem toDigits_leading (n : Nat) :
    Nat.toDigits 10 n = ['0'] ∨ ∃ d ds, Nat.toDigits 10 n = d :: ds ∧ d ≠ '0' := by
  cases Nat.eq_zero_or_pos n with
  | inl h => exact .inl (by rw [h]; rfl)
  | inr h => exact .inr (head_toDigits h)

def integerParts (i : Int) : NumberParts :=
  ⟨decide (i < 0), Nat.toDigits 10 i.natAbs, none, none⟩

theorem proper_integerParts (i : Int) : (integerParts i).Proper where
  leading := toDigits_leading i.natAbs
  whole _ := Nat.isDigit_of_mem_toDigits (by decide) (by decide)
  fraction := nofun
  exponent := nofun

theorem text_integerParts (i : Int) : (integerParts i).text = integerText i := by
  rw [integerText]
  by_cases hneg : i < 0
  · simp [NumberParts.text_eq, integerParts, fractionText, exponentText, hneg]
  · simp [NumberParts.text_eq, integerParts, fractionText, exponentText, hneg]

theorem digitsValue_toDigits : Text.digitsValue 0 (Nat.toDigits 10 n) = n := by
  rw [Text.digitsValue, Nat.ofDigitChars_toDigits (by decide) (by decide)]

def IsInteger64 (i : Int) : Prop := Int64.minValue.toInt ≤ i ∧ i < UInt64.size

theorem value?_integerParts {i : Int} (h : IsInteger64 i) :
    (integerParts i).value? = some (.integer i) := by
  obtain ⟨hlow, hhigh⟩ := h
  simp only [integerParts, NumberParts.value?, digitsValue_toDigits, Option.isNone_none,
    Bool.true_and]
  by_cases hneg : i < 0
  · have habs : -(i.natAbs : Int) = i := by omega
    have hpos : 0 < i.natAbs := by omega
    simp only [hneg, habs, hpos, hlow, decide_true, Bool.not_true, Bool.false_and, Bool.and_true,
      Bool.false_eq_true, if_false, if_true]
  · have habs : (i.natAbs : Int) = i := by omega
    have hlt : i.natAbs < UInt64.size := by omega
    simp [hneg, habs, hlt]

theorem NumberParts.text_of_value?_decimal {p : NumberParts} {literal : String}
    (h : p.value? = some (.decimal literal)) : p.text = literal.toList := by
  simp only [value?] at h
  split at h
  · cases h
  split at h
  · cases h
  split at h
  · cases h
  · cases h
    rw [String.toList_ofList]

theorem NumberParts.Proper.text_eq_cons {p : NumberParts} (h : p.Proper) :
    ∃ c cs, p.text = c :: cs ∧ (c.isDigit = true ∨ c = '-') := by
  obtain ⟨d, ds, hw, hd⟩ := h.exists_cons
  rw [p.text_eq, hw]
  cases p.negative with
  | true => exact ⟨_, _, rfl, .inr rfl⟩
  | false => exact ⟨_, _, rfl, .inl hd⟩

theorem takeScalar_text {p : NumberParts} {j : Json} (hp : p.Proper) (hv : p.value? = some j)
    (hr : EndsNumber rest) : outcome takeScalar (p.text ++ rest) = some (j, rest) := by
  have hnumber := takeNumber_text hp hr
  obtain ⟨c, cs, hc, hhead⟩ := hp.text_eq_cons
  have hhead : ∀ d more, p.text ++ rest = d :: more → d.isDigit = true ∨ d = '-' := by
    rintro d more heq
    rw [hc] at heq
    cases heq
    exact hhead
  generalize p.text ++ rest = text at hnumber hhead
  unfold outcome takeScalar
  split
  case h_1 => simpa using hhead _ _ rfl
  case h_2 => simpa using hhead _ _ rfl
  case h_3 => simpa using hhead _ _ rfl
  case h_4 => simpa using hhead _ _ rfl
  case h_5 =>
    split
    case h_1 hn => cases hnumber.symm.trans hn
    case h_2 hs =>
      cases hnumber.symm.trans hs
      rw [hv]
      rfl

end Numbers

end Monitoring.Json
