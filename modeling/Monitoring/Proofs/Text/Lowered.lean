import Monitoring.Proofs.Text.LowerCase

namespace Monitoring.Text

namespace CaseRange

variable {p q r : CaseRange} {n : Nat} {ranges : List CaseRange}

structure Has (r : CaseRange) (n : Nat) : Prop where
  first_le : r.first ≤ n
  le_last : n ≤ r.last
  step : (n - r.first) % r.step = 0

def partners (r : CaseRange) : CaseRange :=
  ⟨(r.first + r.shift).toNat, (r.last + r.shift).toNat, r.step, 0⟩

def alternate (p q : CaseRange) : Bool :=
  q.step == 2 && (p.step == 2 || p.first == p.last) && (p.first + q.first) % 2 == 1

def apart (p q : CaseRange) : Bool := q.last.blt p.first || alternate p q

def disjoint (p q : CaseRange) : Bool := p.last.blt q.first || p.apart q

def avoids (p : CaseRange) : List CaseRange → Bool
  | [] => true
  | q :: rest => p.last.blt q.first || (p.apart q && p.avoids rest)

theorem Has.not_of_apart (h : p.Has n) (hpq : p.apart q = true) : ¬ q.Has n := by
  intro hq
  obtain ⟨hfirst, hlast, hstep⟩ := h
  obtain ⟨hfirst', hlast', hstep'⟩ := hq
  simp only [apart, alternate, Bool.or_eq_true, Bool.and_eq_true, Nat.blt_eq, beq_iff_eq]
    at hpq
  obtain hlt | ⟨⟨hq2, hp2 | hp1⟩, hparity⟩ := hpq
  · omega
  · rw [hp2] at hstep
    rw [hq2] at hstep'
    omega
  · rw [hq2] at hstep'
    omega

theorem Has.not_of_disjoint (h : p.Has n) (hpq : p.disjoint q = true) : ¬ q.Has n := by
  rw [disjoint, Bool.or_eq_true, Nat.blt_eq] at hpq
  obtain hbehind | hapart := hpq
  · exact fun hq => Nat.not_lt_of_le (Nat.le_trans hq.first_le h.le_last) hbehind
  · exact h.not_of_apart hapart

theorem Has.partners (h : r.Has n) (hshift : 0 ≤ r.first + r.shift) :
    r.partners.Has (n + r.shift).toNat := by
  obtain ⟨hfirst, hlast, hstep⟩ := h
  have hdistance : (n + r.shift).toNat - (r.first + r.shift).toNat = n - r.first := by omega
  exact ⟨by simp only [CaseRange.partners]; omega, by simp only [CaseRange.partners]; omega,
    hdistance ▸ hstep⟩

theorem lowerCode_of_avoids (h : p.avoids ranges = true) (hn : p.Has n) :
    lowerCode n ranges = n := by
  induction ranges with
  | nil => rfl
  | cons q rest ih =>
    rw [avoids, Bool.or_eq_true, Bool.and_eq_true, Nat.blt_eq] at h
    rw [lowerCode]
    obtain hbehind | ⟨hapart, hrest⟩ := h
    · rw [if_pos (Nat.lt_of_le_of_lt hn.le_last hbehind)]
    · split
      · rfl
      · rename_i hfirst
        rw [if_neg fun h => hn.not_of_apart hapart ⟨Nat.le_of_not_lt hfirst, h.1, h.2⟩]
        exact ih hrest

theorem lowerCode_eq_or (n : Nat) (ranges : List CaseRange) :
    lowerCode n ranges = n ∨
      ∃ r ∈ ranges, r.Has n ∧ lowerCode n ranges = (n + r.shift).toNat := by
  induction ranges with
  | nil => exact .inl rfl
  | cons r rest ih =>
    rw [lowerCode]
    split
    · exact .inl rfl
    · rename_i hfirst
      split
      · rename_i h
        exact .inr ⟨r, List.mem_cons_self, ⟨Nat.le_of_not_lt hfirst, h.1, h.2⟩, rfl⟩
      · obtain h | ⟨q, hq, h⟩ := ih
        · exact .inl h
        · exact .inr ⟨q, List.mem_cons_of_mem r hq, h⟩

def dotted : CaseRange := ⟨0x130, 0x130, 1, 0⟩

def surrogates : CaseRange := ⟨0xD800, 0xDFFF, 1, 0⟩

def isSettled (r : CaseRange) : Bool :=
  decide (0 ≤ r.first + r.shift) && decide (r.partners.last < 0x110000) &&
    r.partners.disjoint surrogates && r.partners.disjoint dotted && r.partners.avoids caseRanges

theorem isSettled_of_mem : ∀ r ∈ caseRanges, r.isSettled = true := by decide +kernel

end CaseRange

open CaseRange

theorem toNat_ofNat {n : Nat} (h : n.isValidChar) : (Char.ofNat n).toNat = n := by
  rw [Char.ofNat, dif_pos h]
  rfl

structure Settled (n : Nat) : Prop where
  valid : n.isValidChar
  ne_dotted : n ≠ 'İ'.toNat
  lowerCode : lowerCode n caseRanges = n

theorem settled_of_isSettled {r : CaseRange} {n : Nat} (hr : r.isSettled = true) (h : r.Has n) :
    Settled (n + r.shift).toNat := by
  simp only [isSettled, Bool.and_eq_true, decide_eq_true_eq] at hr
  obtain ⟨⟨⟨⟨hshift, hlast⟩, hsurrogates⟩, hdotted⟩, havoids⟩ := hr
  have hpartner := h.partners hshift
  have hsurrogate := hpartner.not_of_disjoint hsurrogates
  have hdotted' := hpartner.not_of_disjoint hdotted
  have hle := hpartner.le_last
  refine ⟨?_, ?_, lowerCode_of_avoids havoids hpartner⟩
  · have hrange : ¬ (0xD800 ≤ (n + r.shift).toNat ∧ (n + r.shift).toNat ≤ 0xDFFF) :=
      fun h => hsurrogate ⟨h.1, h.2, Nat.mod_one _⟩
    unfold Nat.isValidChar
    omega
  · intro heq
    rw [heq] at hdotted'
    exact hdotted' ⟨Nat.le_refl _, Nat.le_refl _, Nat.mod_one _⟩

variable {c : Char} {cs : List Char}

structure IsLower (c : Char) : Prop where
  ne_dotted : c ≠ 'İ'
  lowerChar : lowerChar c = c

theorem IsLower.ne_sigma (h : IsLower c) : c ≠ 'Σ' := by
  rintro rfl
  exact absurd h.lowerChar (by decide +kernel)

theorem lowerChar_eq_or (c : Char) :
    lowerChar c = c ∨ ∃ r ∈ caseRanges, r.Has c.toNat ∧
      (lowerChar c).toNat = (c.toNat + r.shift).toNat ∧ Settled (c.toNat + r.shift).toNat := by
  obtain hcode | ⟨r, hr, hn, hcode⟩ := lowerCode_eq_or c.toNat caseRanges
  · exact .inl (by rw [lowerChar, hcode, Char.ofNat_toNat])
  · have hsettled := settled_of_isSettled (isSettled_of_mem r hr) hn
    exact .inr ⟨r, hr, hn, by rw [lowerChar, hcode, toNat_ofNat hsettled.valid], hsettled⟩

theorem isLower_lowerChar (h : c ≠ 'İ') : IsLower (lowerChar c) := by
  obtain hsame | ⟨r, -, -, hcode, hsettled⟩ := lowerChar_eq_or c
  · rw [hsame]
    exact ⟨h, hsame⟩
  · refine ⟨fun heq => ?_, ?_⟩
    · rw [heq] at hcode
      exact hsettled.ne_dotted hcode.symm
    · rw [Text.lowerChar, hcode, hsettled.lowerCode, ← hcode, Char.ofNat_toNat]

theorem isLower_lowerSigma (before after : List Char) : IsLower (lowerSigma before after) := by
  rw [lowerSigma]
  split
  · exact ⟨by decide, by decide +kernel⟩
  · exact ⟨by decide, by decide +kernel⟩

theorem isLower_dotted : ∀ c ∈ ['i', '\u0307'], IsLower c :=
  List.forall_mem_cons.mpr ⟨⟨by decide, by decide +kernel⟩,
    List.forall_mem_singleton.mpr ⟨by decide, by decide +kernel⟩⟩

theorem isLower_of_mem_lowerChars (before : List Char) :
    ∀ c ∈ lowerChars before cs, IsLower c := by
  induction cs generalizing before with
  | nil => exact nofun
  | cons d rest ih =>
    intro c hc
    rw [lowerChars, List.mem_append] at hc
    obtain hc | hc := hc
    · split at hc
      · rw [List.mem_singleton.mp hc]
        exact isLower_lowerSigma before rest
      · split at hc
        · exact isLower_dotted c hc
        · rename_i hdotted
          rw [List.mem_singleton.mp hc]
          exact isLower_lowerChar hdotted
    · exact ih (d :: before) c hc

theorem lowerChars_of_isLower (h : ∀ c ∈ cs, IsLower c) (before : List Char) :
    lowerChars before cs = cs := by
  induction cs generalizing before with
  | nil => rfl
  | cons c rest ih =>
    obtain ⟨hc, hrest⟩ := List.forall_mem_cons.mp h
    rw [lowerChars, ih hrest, if_neg hc.ne_sigma, if_neg hc.ne_dotted, hc.lowerChar]
    rfl

theorem lowerCase_lowerCase (s : String) : lowerCase (lowerCase s) = lowerCase s := by
  have hlower : ∀ c ∈ lowerChars [] s.toList, IsLower c := isLower_of_mem_lowerChars []
  rw [lowerCase, lowerCase, String.toList_ofList, lowerChars_of_isLower hlower]

theorem toLower_of_isLower (h : IsLower c) : c.toLower = c := by
  by_cases hascii : c.toNat < 128
  · rw [← lowerChar_of_ascii hascii, h.lowerChar]
  · exact toLower_of_not_ascii hascii

theorem equalsIgnoringCase_lowerCase_iff {s t : String} :
    equalsIgnoringCase (lowerCase s) (lowerCase t) = true ↔ lowerCase s = lowerCase t := by
  have hlower (u : String) : (lowerCase u).toList.map Char.toLower = (lowerCase u).toList := by
    rw [lowerCase, String.toList_ofList]
    exact (List.map_congr_left fun c hc =>
      toLower_of_isLower (isLower_of_mem_lowerChars [] c hc)).trans (List.map_id _)
  rw [equalsIgnoringCase, hlower, hlower, beq_iff_eq, String.toList_inj]

end Monitoring.Text
