import Monitoring.Text.Character

namespace Monitoring.Text

variable {p : Char → Bool} {c : Char} {cs rest : List Char}

def EndsRun (p : Char → Bool) (rest : List Char) : Prop :=
  ∀ c more, rest = c :: more → p c = false

namespace EndsRun

theorem nil : EndsRun p [] := nofun

theorem cons (h : p c = false) : EndsRun p (c :: rest) := by
  rintro _ _ ⟨⟩
  exact h

theorem append (hc : EndsRun p cs) (hr : EndsRun p rest) : EndsRun p (cs ++ rest) := by
  cases cs with
  | nil => exact hr
  | cons c more => exact cons (hc c more rfl)

theorem takeWhile_append (hr : EndsRun p rest) (hc : ∀ c ∈ cs, p c = true) :
    (cs ++ rest).takeWhile p = cs := by
  rw [List.takeWhile_append_of_pos hc]
  cases rest with
  | nil => exact List.append_nil cs
  | cons c more => simp [hr c more rfl]

theorem dropWhile_append (hr : EndsRun p rest) (hc : ∀ c ∈ cs, p c = true) :
    (cs ++ rest).dropWhile p = rest := by
  rw [List.dropWhile_append_of_pos hc]
  cases rest with
  | nil => rfl
  | cons c more => simp [hr c more rfl]

theorem dropWhile (p : Char → Bool) (cs : List Char) : EndsRun p (cs.dropWhile p) := by
  intro c more h
  have hc := List.head?_dropWhile_not p cs
  rw [h, List.head?_cons] at hc
  simpa using hc

end EndsRun

theorem of_mem_takeWhile (h : c ∈ cs.takeWhile p) : p c = true :=
  List.all_eq_true.mp List.all_takeWhile c h

theorem takeDigits_append (hne : cs ≠ []) (hd : ∀ c ∈ cs, c.isDigit = true)
    (hr : EndsRun Char.isDigit rest) : takeDigits (cs ++ rest) = some (cs, rest) := by
  unfold takeDigits
  rw [hr.takeWhile_append hd, hr.dropWhile_append hd]
  cases cs with
  | nil => exact absurd rfl hne
  | cons c cs => rfl

end Monitoring.Text
