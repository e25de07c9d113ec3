import Monitoring.Proofs.Lookup
import Monitoring.State.ResourceState

namespace Monitoring

namespace Attributes

theorem lookup_putEntry (name : String) (value : AttributeValue)
    (entries : List (String × AttributeValue)) (key : String) :
    (putEntry name value entries).lookup key =
      if key = name then some value else entries.lookup key := by
  induction entries with
  | nil => rw [putEntry, Lookup.lookup_cons_eq_ite]
  | cons first rest ih =>
    obtain ⟨n, v⟩ := first
    rw [putEntry, Lookup.lookup_cons_eq_ite]
    by_cases hn : n = name
    · rw [if_pos hn, Lookup.lookup_cons_eq_ite, hn]
      by_cases hk : key = name
      · rw [if_pos hk, if_pos hk]
      · rw [if_neg hk, if_neg hk, if_neg hk]
    · rw [if_neg hn, Lookup.lookup_cons_eq_ite, ih]
      by_cases hk : key = n
      · have hne : key ≠ name := fun h => hn (hk.symm.trans h)
        rw [if_pos hk, if_neg hne, if_pos hk]
      · rw [if_neg hk, if_neg hk]

theorem get?_insert (as : Attributes) (name : String) (value : AttributeValue) (key : String) :
    (as.insert name value).get? key = if key = name then some value else as.get? key :=
  lookup_putEntry name value as.entries key

theorem get?_erase (as : Attributes) (name key : String) :
    (as.erase name).get? key = if key = name then none else as.get? key :=
  Lookup.lookup_filter_ne

theorem mem_names_of_get? {as : Attributes} {name : String} {value : AttributeValue}
    (h : as.get? name = some value) : name ∈ as.names :=
  List.mem_map.mpr ⟨(name, value), Lookup.mem_of_lookup_eq_some h, rfl⟩

theorem exists_get?_of_mem_names {as : Attributes} {name : String} (h : name ∈ as.names) :
    ∃ value, as.get? name = some value := by
  refine Option.ne_none_iff_exists'.mp fun hnone => ?_
  obtain ⟨entry, hentry, rfl⟩ := List.mem_map.mp h
  have hne := List.lookup_eq_none_iff.mp hnone entry hentry
  rw [bne_self_eq_false] at hne
  cases hne

end Attributes

inductive AttributeValue.IsTextual : AttributeValue → Prop
  | string (value : String) : IsTextual (.string value)
  | strings (items : List String) : IsTextual (.strings items)

theorem AttributeValue.sameItems_map_string (items : List String) :
    sameItems (items.map string) (items.map string) = true := by
  induction items with
  | nil => rfl
  | cons item rest ih =>
    rw [List.map_cons, sameItems, ih, Bool.and_true]
    exact decide_eq_true rfl

theorem AttributeValue.IsTextual.same_self {value : AttributeValue} (h : value.IsTextual) :
    value.same value = true := by
  cases h with
  | string value => exact decide_eq_true rfl
  | strings items => exact sameItems_map_string items

namespace ResourceState

variable {s : ResourceState} {name key : String} {value : AttributeValue}

@[simp]
theorem id_set (s : ResourceState) (name : String) (value : AttributeValue) :
    (s.set name value).id = s.id := rfl

@[simp]
theorem id_setOptional (o : Option AttributeValue) : (s.setOptional name o).id = s.id := by
  cases o <;> rfl

@[simp]
theorem get?_set (s : ResourceState) (name : String) (value : AttributeValue) (key : String) :
    (s.set name value).get? key = if key = name then some value else s.get? key :=
  s.attributes.get?_insert name value key

@[simp]
theorem get?_setOptional (s : ResourceState) (name : String) (o : Option AttributeValue)
    (key : String) : (s.setOptional name o).get? key = if key = name then o else s.get? key := by
  cases o with
  | none => exact s.attributes.get?_erase name key
  | some value => exact s.get?_set name value key

def IsTextual (s : ResourceState) : Prop :=
  ∀ name value, s.get? name = some value → value.IsTextual

theorem IsTextual.setId (h : s.IsTextual) (id : String) : (s.setId id).IsTextual := h

theorem IsTextual.setOptional (h : s.IsTextual) (name : String) {o : Option AttributeValue}
    (ho : ∀ value, o = some value → value.IsTextual) : (s.setOptional name o).IsTextual := by
  intro key value hget
  rw [get?_setOptional] at hget
  by_cases hkey : key = name
  · rw [if_pos hkey] at hget
    exact ho value hget
  · rw [if_neg hkey] at hget
    exact h key value hget

theorem IsTextual.set (h : s.IsTextual) (name : String) (hv : value.IsTextual) :
    (s.set name value).IsTextual := by
  refine h.setOptional name (o := some value) fun v hsome => ?_
  cases hsome
  exact hv

theorem IsTextual.hasChange_commit (h : s.IsTextual) (name : String) :
    s.commit.hasChange name = false := by
  rw [hasChange, commit]
  cases hget : s.attributes.get? name with
  | none => rfl
  | some value =>
    have hsame := (h name value hget).same_self
    simp only [hsame, Bool.not_true]

end ResourceState

end Monitoring
