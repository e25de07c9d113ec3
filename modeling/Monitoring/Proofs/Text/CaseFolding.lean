import Monitoring.Proofs.Text.Lowered

/-!
Two notions of ignoring case. Texts that differ only in the case of ASCII letters have one lower
case. The converse holds where the lower case is ASCII without the letter k: of all other characters
only the Kelvin sign becomes an ASCII letter and nothing else.
-/

namespace Monitoring.Text

variable {c d : Char} {cs : List Char} {s t : String}

section Folding

theorem apply_toLower {α : Type} {f : Char → α}
    (h : ∀ n < 128, f (Char.ofNat n).toLower = f (Char.ofNat n)) (c : Char) :
    f c.toLower = f c := by
  by_cases hascii : c.toNat < 128
  · rw [← Char.ofNat_toNat c]
    exact h c.toNat hascii
  · rw [toLower_of_not_ascii hascii]

theorem lowerChar_toLower (c : Char) : lowerChar c.toLower = lowerChar c :=
  apply_toLower (by decide +kernel) c

theorem isCased_toLower (c : Char) : isCased c.toLower = isCased c :=
  apply_toLower (by decide +kernel) c

theorem isCaseIgnorable_toLower (c : Char) : isCaseIgnorable c.toLower = isCaseIgnorable c :=
  apply_toLower (by decide +kernel) c

theorem toLower_eq_iff (hd : ¬ d.toNat < 128) : c.toLower = d ↔ c = d := by
  by_cases hascii : c.toNat < 128
  · have hlower : c.toLower.toNat < 128 := by
      have h : ∀ n < 128, (Char.ofNat n).toLower.toNat < 128 := by decide +kernel
      rw [← Char.ofNat_toNat c]
      exact h c.toNat hascii
    refine iff_of_false ?_ ?_
    · rintro rfl
      exact hd hlower
    · rintro rfl
      exact hd hascii
  · rw [toLower_of_not_ascii hascii]

theorem reachesCased_map_toLower (cs : List Char) :
    reachesCased (cs.map Char.toLower) = reachesCased cs := by
  have hskip : isCaseIgnorable ∘ Char.toLower = isCaseIgnorable := funext isCaseIgnorable_toLower
  rw [reachesCased, List.dropWhile_map, hskip, reachesCased]
  cases cs.dropWhile isCaseIgnorable with
  | nil => rfl
  | cons c rest => exact isCased_toLower c

theorem lowerSigma_map_toLower (before after : List Char) :
    lowerSigma (before.map Char.toLower) (after.map Char.toLower) = lowerSigma before after := by
  rw [lowerSigma, reachesCased_map_toLower, reachesCased_map_toLower, lowerSigma]

theorem lowerChars_map_toLower (before cs : List Char) :
    lowerChars (before.map Char.toLower) (cs.map Char.toLower) = lowerChars before cs := by
  have hsigma (c : Char) : c.toLower = 'Σ' ↔ c = 'Σ' := toLower_eq_iff (by decide)
  have hdotted (c : Char) : c.toLower = 'İ' ↔ c = 'İ' := toLower_eq_iff (by decide)
  -- a sigma looks at the letters around it, but only at whether they have case
  induction cs generalizing before with
  | nil => rfl
  | cons c rest ih =>
    rw [List.map_cons, lowerChars, ← List.map_cons, ih, lowerSigma_map_toLower, lowerChar_toLower,
      lowerChars]
    simp only [hsigma, hdotted]

theorem lowerCase_congr (h : equalsIgnoringCase s t = true) : lowerCase s = lowerCase t := by
  rw [equalsIgnoringCase, beq_iff_eq] at h
  rw [lowerCase, ← lowerChars_map_toLower, h, lowerChars_map_toLower, lowerCase]

end Folding

section Unfolding

def CaseRange.staysOutside (r : CaseRange) : Bool :=
  r.last < 128 || decide (128 ≤ r.first + r.shift) || (r.first == 0x212A && r.last == 0x212A)

theorem staysOutside_of_mem : ∀ r ∈ caseRanges, r.staysOutside = true := by decide +kernel

theorem ascii_or_kelvin_of_lowerChar (h : (lowerChar c).toNat < 128) :
    c.toNat < 128 ∨ c = '\u212A' := by
  obtain hsame | ⟨r, hr, ⟨hfirst, hlast, -⟩, hcode, -⟩ := lowerChar_eq_or c
  · rw [hsame] at h
    exact .inl h
  · have hstays := staysOutside_of_mem r hr
    simp only [CaseRange.staysOutside, Bool.or_eq_true, Bool.and_eq_true, decide_eq_true_eq,
      beq_iff_eq] at hstays
    obtain (hascii | hpartner) | ⟨hfirst', hlast'⟩ := hstays
    · exact .inl (Nat.lt_of_le_of_lt hlast hascii)
    · omega
    · rw [hfirst'] at hfirst
      rw [hlast'] at hlast
      exact .inr (Char.toNat_inj.mp (Nat.le_antisymm hlast hfirst))

theorem isAscii_of_lowerChars {before : List Char} (h : IsAscii (lowerChars before cs))
    (hk : 'k' ∉ lowerChars before cs) : IsAscii cs := by
  induction cs generalizing before with
  | nil => exact nofun
  | cons c rest ih =>
    rw [lowerChars] at h hk
    obtain ⟨hc, hrest⟩ := List.forall_mem_append.mp h
    rw [List.mem_append, not_or] at hk
    refine List.forall_mem_cons.mpr ⟨?_, ih hrest hk.2⟩
    split at hc
    · have hsigma := hc _ List.mem_cons_self
      rw [lowerSigma] at hsigma
      split at hsigma <;> exact absurd hsigma (by decide)
    · split at hc
      · exact absurd (hc '\u0307' (by decide)) (by decide)
      · rename_i hsigma hdotted
        rw [if_neg hsigma, if_neg hdotted, List.mem_singleton] at hk
        obtain hascii | rfl := ascii_or_kelvin_of_lowerChar (hc _ List.mem_cons_self)
        · exact hascii
        · exact absurd (by decide +kernel) hk.1

theorem lowerCase_eq_iff (ht : IsAscii t.toList) (hk : 'k' ∉ t.toList)
    (hlower : t.toList.map Char.toLower = t.toList) :
    lowerCase s = t ↔ equalsIgnoringCase t s = true := by
  refine ⟨fun h => ?_, lowerCase_eq_of_equalsIgnoringCase ht hlower⟩
  have hchars : lowerChars [] s.toList = t.toList := by
    rw [← h, lowerCase, String.toList_ofList]
  have hs : IsAscii s.toList := isAscii_of_lowerChars (hchars ▸ ht) (hchars ▸ hk)
  rw [lowerChars_of_ascii hs] at hchars
  rw [equalsIgnoringCase, hlower, hchars, beq_self_eq_true]

example : lowerCase "\u212A" = "k" ∧ equalsIgnoringCase "k" "\u212A" = false := by decide +kernel

end Unfolding

end Monitoring.Text
