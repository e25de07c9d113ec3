import Monitoring.Text.Character
import Monitoring.Text.LowerCase

namespace Monitoring.Text

def IsAscii (cs : List Char) : Prop := ∀ c ∈ cs, c.toNat < 128

theorem lowerCode_of_ascii :
    ∀ n < 128, lowerCode n caseRanges = (Char.ofNat n).toLower.toNat := by decide +kernel

theorem lowerChar_of_ascii {c : Char} (h : c.toNat < 128) : lowerChar c = c.toLower := by
  rw [lowerChar, lowerCode_of_ascii _ h, Char.ofNat_toNat, Char.ofNat_toNat]

theorem lowerChars_of_ascii {cs : List Char} (h : IsAscii cs) (before : List Char) :
    lowerChars before cs = cs.map Char.toLower := by
  induction cs generalizing before with
  | nil => rfl
  | cons c rest ih =>
    obtain ⟨hc, hrest⟩ := List.forall_mem_cons.mp h
    have hsigma : c ≠ 'Σ' := by
      rintro rfl
      exact absurd hc (by decide)
    have hdotted : c ≠ 'İ' := by
      rintro rfl
      exact absurd hc (by decide)
    simp only [lowerChars, if_neg hsigma, if_neg hdotted, lowerChar_of_ascii hc, ih hrest,
      List.singleton_append, List.map_cons]

theorem ascii_of_toLower {c : Char} (h : c.toLower.toNat < 128) : c.toNat < 128 := by
  unfold Char.toLower at h
  split at h
  · rename_i hupper
    have hz : c.toNat ≤ 90 := hupper.2
    omega
  · exact h

theorem toLower_of_not_ascii {c : Char} (h : ¬ c.toNat < 128) : c.toLower = c := by
  unfold Char.toLower
  split
  · rename_i hupper
    have hz : c.toNat ≤ 90 := hupper.2
    omega
  · rfl

theorem lowerCase_eq_of_equalsIgnoringCase {s t : String} (ht : IsAscii t.toList)
    (hlower : t.toList.map Char.toLower = t.toList) (h : equalsIgnoringCase t s = true) :
    lowerCase s = t := by
  rw [equalsIgnoringCase, beq_iff_eq, hlower] at h
  have hs : IsAscii s.toList := by
    intro c hc
    refine ascii_of_toLower (ht c.toLower ?_)
    rw [h]
    exact List.mem_map_of_mem hc
  rw [lowerCase, lowerChars_of_ascii hs, ← h, String.ofList_toList]

end Monitoring.Text
