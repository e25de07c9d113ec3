import Monitoring.Proofs.Result
import Monitoring.Proofs.State.Attributes
import Monitoring.State.NameFormat

namespace Monitoring

namespace Attributes

variable {as bs : Attributes} {name : String} {value : AttributeValue}

theorem eq_of_entries (h : as.entries = bs.entries) : as = bs := by
  cases as
  cases bs
  cases h
  rfl

theorem putEntry_of_lookup {entries : List (String × AttributeValue)}
    (h : entries.lookup name = some value) : putEntry name value entries = entries := by
  induction entries with
  | nil => cases h
  | cons first rest ih =>
    obtain ⟨n, v⟩ := first
    rw [Lookup.lookup_cons_eq_ite] at h
    rw [putEntry]
    by_cases hn : n = name
    · rw [if_pos hn.symm] at h
      cases h
      rw [if_pos hn]
    · rw [if_neg (Ne.symm hn)] at h
      rw [if_neg hn, ih h]

theorem putEntry_of_lookup_none {entries : List (String × AttributeValue)}
    (h : entries.lookup name = none) :
    putEntry name value entries = entries ++ [(name, value)] := by
  induction entries with
  | nil => rfl
  | cons first rest ih =>
    obtain ⟨n, v⟩ := first
    rw [Lookup.lookup_cons_eq_ite] at h
    have hn : name ≠ n := by
      rintro rfl
      rw [if_pos rfl] at h
      cases h
    rw [if_neg hn] at h
    rw [putEntry, if_neg hn.symm, ih h, List.cons_append]

theorem insert_of_get? (h : as.get? name = some value) : as.insert name value = as :=
  eq_of_entries (putEntry_of_lookup h)

theorem erase_of_get? (h : as.get? name = none) : as.erase name = as := by
  refine eq_of_entries (List.filter_eq_self.mpr fun entry hentry => ?_)
  have hne := List.lookup_eq_none_iff.mp h entry hentry
  rw [bne_iff_ne] at hne
  exact decide_eq_true (Ne.symm hne)

end Attributes

namespace ResourceState

variable {s : ResourceState} {name key : String} {value : Option AttributeValue}
variable {changes : List (String × Option AttributeValue)}

theorem setOptional_of_get? (h : s.get? name = value) : s.setOptional name value = s := by
  subst h
  unfold setOptional
  split
  · rename_i h
    rw [set, Attributes.insert_of_get? h]
  · rename_i h
    rw [remove, Attributes.erase_of_get? h]

theorem entries_set_of_absent {value : AttributeValue} (h : s.get? name = none) :
    (s.set name value).attributes.entries = s.attributes.entries ++ [(name, value)] :=
  Attributes.putEntry_of_lookup_none h

theorem setId_of_id {id : String} (h : s.id = some id) : s.setId id = s := by
  rw [setId, ← h]

def assign (s : ResourceState) : List (String × Option AttributeValue) → ResourceState
  | [] => s
  | (name, value) :: rest => (s.setOptional name value).assign rest

def Shows (s : ResourceState) (changes : List (String × Option AttributeValue)) : Prop :=
  ∀ change ∈ changes, s.get? change.1 = change.2

@[simp]
theorem prior_setOptional (s : ResourceState) (name : String) (value : Option AttributeValue) :
    (s.setOptional name value).prior = s.prior := by
  cases value <;> rfl

@[simp]
theorem id_assign (s : ResourceState) (changes : List (String × Option AttributeValue)) :
    (s.assign changes).id = s.id := by
  induction changes generalizing s with
  | nil => rfl
  | cons change rest ih => rw [assign, ih, id_setOptional]

theorem get?_assign_of_notMem (h : key ∉ changes.map Prod.fst) :
    (s.assign changes).get? key = s.get? key := by
  induction changes generalizing s with
  | nil => rfl
  | cons change rest ih =>
    rw [List.map_cons, List.mem_cons, not_or] at h
    rw [assign, ih h.2, get?_setOptional, if_neg h.1]

theorem shows_assign (h : (changes.map Prod.fst).Nodup) : (s.assign changes).Shows changes := by
  induction changes generalizing s with
  | nil => exact nofun
  | cons change rest ih =>
    obtain ⟨hfirst, hrest⟩ := List.nodup_cons.mp h
    refine List.forall_mem_cons.mpr ⟨?_, ih hrest⟩
    rw [assign, get?_assign_of_notMem hfirst, get?_setOptional, if_pos rfl]

theorem Shows.assign_eq (h : s.Shows changes) : s.assign changes = s := by
  induction changes with
  | nil => rfl
  | cons change rest ih =>
    obtain ⟨hfirst, hrest⟩ := List.forall_mem_cons.mp h
    rw [assign, setOptional_of_get? hfirst, ih hrest]

section Reading

variable {text : String} {items : List String}

theorem string?_of_get? {o : Option String} (h : s.get? name = o.map .string) :
    s.string? name = .ok o := by
  rw [string?, h]
  cases o <;> rfl

theorem get?_of_string? {o : Option String} (h : s.string? name = .ok o) :
    s.get? name = o.map .string := by
  unfold string? at h
  split at h
  · rename_i hget
    cases h
    exact hget
  · rename_i hget
    cases h
    exact hget
  · cases h

theorem requiredString_of_get? (h : s.get? name = some (.string text)) :
    s.requiredString name = .ok text := by
  rw [requiredString, string?, h]
  rfl

theorem stringItems_map_string (name : String) (items : List String) :
    stringItems name (items.map .string) = .ok items := by
  induction items with
  | nil => rfl
  | cons item rest ih => rw [List.map_cons, stringItems, ih]; rfl

theorem stringList_of_get? (h : s.get? name = some (.strings items)) :
    s.stringList name = .ok items := by
  rw [stringList, h]
  exact stringItems_map_string name items

theorem firstOccurrences_of_nodup {seen : List String} (hd : items.Nodup)
    (hseen : ∀ item ∈ items, item ∉ seen) : firstOccurrences seen items = items := by
  induction items generalizing seen with
  | nil => rfl
  | cons item rest ih =>
    obtain ⟨hitem, hrest⟩ := List.nodup_cons.mp hd
    obtain ⟨hnew, hseen⟩ := List.forall_mem_cons.mp hseen
    rw [firstOccurrences, if_neg hnew, ih hrest]
    intro later hlater h
    rcases List.mem_cons.mp h with rfl | h
    · exact hitem hlater
    · exact hseen later hlater h

theorem stringSet_of_stringList (h : s.stringList name = .ok items) (hd : items.Nodup) :
    s.stringSet name = .ok items := by
  rw [stringSet, h]
  exact congrArg Except.ok (firstOccurrences_of_nodup hd fun _ _ => List.not_mem_nil)

end Reading

theorem hasChange_of_get? {value : AttributeValue} (hv : value.IsTextual)
    (h : s.get? name = some value) (hp : s.prior.get? name = some value) :
    s.hasChange name = false := by
  have ha : s.attributes.get? name = some value := h
  rw [hasChange, ha, hp]
  simp only [hv.same_self, Bool.not_true]

theorem hasChange_of_prior_ne {text : String} (h : s.get? name = some (.string text))
    (hp : s.prior.get? name ≠ some (.string text)) : s.hasChange name = true := by
  have ha : s.attributes.get? name = some (.string text) := h
  rw [hasChange, ha]
  cases hprior : s.prior.get? name with
  | none => rfl
  | some value =>
    cases value with
    | string other =>
      have hne : text ≠ other := by
        rintro rfl
        exact hp hprior
      exact congrArg Bool.not (decide_eq_false hne)
    | boolean _ => rfl
    | integer _ => rfl
    | decimal _ => rfl
    | list _ => rfl

end ResourceState

theorem NameFormat.fullName_of_kept {f : NameFormat} {s : ResourceState}
    {nameField fullNameField given stored : String}
    (hgiven : s.get? nameField = some (.string given))
    (hprior : s.prior.get? nameField = some (.string given))
    (hstored : s.get? fullNameField = some (.string stored)) :
    f.fullName s nameField fullNameField = .ok stored := by
  have hkept := ResourceState.hasChange_of_get? (.string given) hgiven hprior
  have hname := ResourceState.requiredString_of_get? hgiven
  have hfull : s.string? fullNameField = .ok (some stored) :=
    ResourceState.string?_of_get? hstored
  rw [fullName, hname, hfull]
  simp only [Result.ok_bind, hkept]
  rfl

theorem NameFormat.fullName_of_changed {f : NameFormat} {s : ResourceState}
    {nameField fullNameField given stored : String}
    (hgiven : s.get? nameField = some (.string given))
    (hprior : s.prior.get? nameField ≠ some (.string given))
    (hstored : s.get? fullNameField = some (.string stored)) :
    f.fullName s nameField fullNameField = .ok (f.format given) := by
  have hchanged := ResourceState.hasChange_of_prior_ne hgiven hprior
  have hname := ResourceState.requiredString_of_get? hgiven
  have hfull : s.string? fullNameField = .ok (some stored) :=
    ResourceState.string?_of_get? hstored
  rw [fullName, hname, hfull]
  simp only [Result.ok_bind, hchanged]
  rfl

theorem NameFormat.fullName_of_absent {f : NameFormat} {s : ResourceState}
    {nameField fullNameField given : String} (hgiven : s.get? nameField = some (.string given))
    (habsent : s.get? fullNameField = none) :
    f.fullName s nameField fullNameField = .ok (f.format given) := by
  have hname := ResourceState.requiredString_of_get? hgiven
  have hfull : s.string? fullNameField = .ok none := ResourceState.string?_of_get? habsent
  rw [fullName, hname, hfull]
  rfl

theorem NameFormat.exists_given_of_fullName {f : NameFormat} {s : ResourceState}
    {nameField fullNameField stored : String}
    (h : f.fullName s nameField fullNameField = .ok stored) :
    ∃ given, s.get? nameField = some (.string given) := by
  obtain ⟨given, hgiven, -⟩ := Result.bind_eq_ok_iff.mp h
  obtain ⟨found, hfound, h⟩ := Result.bind_eq_ok_iff.mp hgiven
  cases found with
  | none => cases h
  | some text => exact ⟨text, ResourceState.get?_of_string? hfound⟩

end Monitoring
