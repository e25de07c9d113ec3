import Mathlib.Data.List.Forall2

namespace Monitoring.Result

variable {ε α β : Type}

@[simp]
theorem ok_bind {a : α} {f : α → Except ε β} : (Except.ok a >>= f) = f a := rfl

@[simp]
theorem error_bind {e : ε} {f : α → Except ε β} : (Except.error e >>= f) = .error e := rfl

theorem bind_eq_ok_iff {x : Except ε α} {f : α → Except ε β} {b : β} :
    (x >>= f) = .ok b ↔ ∃ a, x = .ok a ∧ f a = .ok b := by
  cases x with
  | error e => simp [bind, Except.bind]
  | ok a => simp [bind, Except.bind]

theorem bind_eq_error_iff {x : Except ε α} {f : α → Except ε β} {e : ε} :
    (x >>= f) = .error e ↔ x = .error e ∨ ∃ a, x = .ok a ∧ f a = .error e := by
  cases x with
  | error e' => simp [bind, Except.bind]
  | ok a => simp [bind, Except.bind]

theorem then_eq_ok_iff {x : Except ε Unit} {y : Except ε β} {b : β} :
    (x >>= fun _ => y) = .ok b ↔ x = .ok () ∧ y = .ok b := by
  rw [bind_eq_ok_iff]
  exact ⟨fun ⟨_, hx, hy⟩ => ⟨hx, hy⟩, fun ⟨hx, hy⟩ => ⟨(), hx, hy⟩⟩

theorem map_eq_ok_iff {x : Except ε α} {f : α → β} {b : β} :
    x.map f = .ok b ↔ ∃ a, x = .ok a ∧ f a = b := by
  cases x with
  | error e => simp [Except.map]
  | ok a => simp [Except.map]

theorem map_eq_error_iff {x : Except ε α} {f : α → β} {e : ε} :
    x.map f = .error e ↔ x = .error e := by
  cases x with
  | error e' => simp [Except.map]
  | ok a => exact ⟨nofun, nofun⟩

@[simp]
theorem mapError_ok {ε' : Type} {f : ε → ε'} {a : α} : (Except.ok a).mapError f = .ok a := rfl

@[simp]
theorem mapError_error {ε' : Type} {f : ε → ε'} {e : ε} :
    (Except.error e : Except ε α).mapError f = .error (f e) := rfl

theorem mapError_eq_ok_iff {ε' : Type} {x : Except ε α} {f : ε → ε'} {a : α} :
    x.mapError f = .ok a ↔ x = .ok a := by
  cases x with
  | error e => exact ⟨nofun, nofun⟩
  | ok b => rw [mapError_ok, Except.ok.injEq, Except.ok.injEq]

theorem mapError_eq_error_iff {ε' : Type} {x : Except ε α} {f : ε → ε'} {e : ε'} :
    x.mapError f = .error e ↔ ∃ e', x = .error e' ∧ f e' = e := by
  cases x with
  | error e' => simp
  | ok a => simp

theorem forM_eq_ok_iff {check : α → Except ε Unit} {items : List α} :
    items.forM check = .ok () ↔ ∀ item ∈ items, check item = .ok () := by
  induction items with
  | nil => exact ⟨fun _ => nofun, fun _ => rfl⟩
  | cons item rest ih =>
    rw [List.forM, bind_eq_ok_iff, List.forall_mem_cons, ← ih]
    exact ⟨fun ⟨_, hitem, hrest⟩ => ⟨hitem, hrest⟩, fun ⟨hitem, hrest⟩ => ⟨(), hitem, hrest⟩⟩

theorem exists_of_forM_eq_error {check : α → Except ε Unit} {items : List α} {e : ε}
    (h : items.forM check = .error e) : ∃ item ∈ items, check item = .error e := by
  induction items with
  | nil => cases h
  | cons item rest ih =>
    obtain h | ⟨_, -, h⟩ := bind_eq_error_iff.mp h
    · exact ⟨item, List.mem_cons_self, h⟩
    · obtain ⟨other, hother, h⟩ := ih h
      exact ⟨other, List.mem_cons_of_mem item hother, h⟩

theorem mapM_eq_ok_iff {f : α → Except ε β} {items : List α} {values : List β} :
    items.mapM f = .ok values ↔
      List.Forall₂ (fun item value => f item = .ok value) items values := by
  induction items generalizing values with
  | nil =>
    rw [List.mapM_nil, List.forall₂_nil_left_iff]
    exact ⟨fun h => (Except.ok.inj h).symm, fun h => congrArg Except.ok h.symm⟩
  | cons item rest ih =>
    rw [List.mapM_cons, bind_eq_ok_iff, List.forall₂_cons_left_iff]
    constructor
    · rintro ⟨value, hitem, h⟩
      obtain ⟨others, hrest, h⟩ := bind_eq_ok_iff.mp h
      cases h
      exact ⟨value, others, hitem, ih.mp hrest, rfl⟩
    · rintro ⟨value, others, hitem, hrest, rfl⟩
      exact ⟨value, hitem, bind_eq_ok_iff.mpr ⟨others, ih.mpr hrest, rfl⟩⟩

theorem mapM_eq_error_iff {f : α → Except ε β} {items : List α} {e : ε} :
    items.mapM f = .error e ↔ ∃ before bad behind, items = before ++ bad :: behind ∧
      (∀ item ∈ before, ∃ value, f item = .ok value) ∧ f bad = .error e := by
  induction items with
  | nil =>
    refine ⟨nofun, ?_⟩
    rintro ⟨before, bad, behind, h, -⟩
    cases before <;> cases h
  | cons item rest ih =>
    rw [List.mapM_cons, bind_eq_error_iff]
    constructor
    · rintro (hitem | ⟨value, hitem, h⟩)
      · exact ⟨[], item, rest, rfl, nofun, hitem⟩
      · obtain h | ⟨_, -, h⟩ := bind_eq_error_iff.mp h
        · obtain ⟨before, bad, behind, rfl, hbefore, hbad⟩ := ih.mp h
          exact ⟨item :: before, bad, behind, rfl,
            List.forall_mem_cons.mpr ⟨⟨value, hitem⟩, hbefore⟩, hbad⟩
        · cases h
    · rintro ⟨before, bad, behind, h, hbefore, hbad⟩
      cases before with
      | nil =>
        cases h
        exact .inl hbad
      | cons first others =>
        cases h
        obtain ⟨⟨value, hfirst⟩, hothers⟩ := List.forall_mem_cons.mp hbefore
        have hrest := ih.mpr ⟨others, bad, behind, rfl, hothers, hbad⟩
        exact .inr ⟨value, hfirst, bind_eq_error_iff.mpr (.inl hrest)⟩

theorem foldlM_map_eq {σ : Type} {f : α → Except ε β} {change : σ → β → σ} {items : List α} {s : σ} :
    items.foldlM (fun s item => (f item).map (change s)) s =
      (items.mapM f).map fun values => values.foldl change s := by
  induction items generalizing s with
  | nil => rfl
  | cons item rest ih =>
    rw [List.foldlM_cons, List.mapM_cons]
    cases f item with
    | error e => rfl
    | ok value =>
      have hrest := ih (s := change s value)
      rw [ok_bind, Except.map, ok_bind, hrest]
      cases rest.mapM f with
      | error e => rfl
      | ok values => rfl

end Monitoring.Result
