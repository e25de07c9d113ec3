namespace Monitoring.Lookup

variable {α β : Type} [DecidableEq α] {key name : α} {value : β} {entries : List (α × β)}

@[simp]
theorem lookup_cons_eq_ite (key : α) (value : β) (entries : List (α × β)) (name : α) :
    ((key, value) :: entries).lookup name =
      if name = key then some value else entries.lookup name := by
  by_cases h : name = key
  · rw [h, List.lookup_cons_self, if_pos rfl]
  · rw [List.lookup_cons, beq_false_of_ne h, if_neg h]

theorem mem_of_lookup_eq_some (h : entries.lookup name = some value) : (name, value) ∈ entries := by
  obtain ⟨before, behind, rfl, -⟩ := List.lookup_eq_some_iff.mp h
  exact List.mem_append_right before List.mem_cons_self

theorem lookup_filter_ne :
    (entries.filter fun e => e.1 ≠ key).lookup name =
      if name = key then none else entries.lookup name := by
  induction entries with
  | nil => simp
  | cons first rest ih =>
    obtain ⟨k, v⟩ := first
    by_cases hk : k = key
    · rw [List.filter_cons_of_neg (by simpa using hk), ih, lookup_cons_eq_ite]
      by_cases hn : name = key
      · rw [if_pos hn, if_pos hn]
      · have hne : name ≠ k := fun h => hn (h.trans hk)
        rw [if_neg hn, if_neg hn, if_neg hne]
    · rw [List.filter_cons_of_pos (by simpa using hk), lookup_cons_eq_ite, lookup_cons_eq_ite, ih]
      by_cases hn : name = key
      · have hne : name ≠ k := fun h => hk (h.symm.trans hn)
        rw [if_pos hn, if_pos hn, if_neg hne]
      · rw [if_neg hn, if_neg hn]

end Monitoring.Lookup
