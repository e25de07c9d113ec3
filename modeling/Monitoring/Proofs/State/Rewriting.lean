import Monitoring.Proofs.State.Assignments

/-!
What a run of writes leaves alone: every other attribute, the committed ones, and the order of all
that stays. Removing an attribute and setting it again would move it, so no attribute is written
twice.
-/

namespace Monitoring

namespace Attributes

theorem names_insert (as : Attributes) (name : String) (value : AttributeValue) :
    (as.insert name value).names = if name ∈ as.names then as.names else as.names ++ [name] :=
  map_fst_putEntry name value as.entries

theorem names_erase (as : Attributes) (name : String) :
    (as.erase name).names = as.names.filter fun n => n ≠ name := by
  rw [names, names, erase, List.filter_map]
  rfl

theorem mem_names_iff {as : Attributes} {name : String} :
    name ∈ as.names ↔ as.get? name ≠ none := by
  refine ⟨fun h => ?_, fun h => ?_⟩
  · obtain ⟨value, hvalue⟩ := exists_get?_of_mem_names h
    rw [hvalue]
    exact Option.some_ne_none value
  · obtain ⟨value, hvalue⟩ := Option.ne_none_iff_exists'.mp h
    exact mem_names_of_get? hvalue

end Attributes

namespace ResourceState

variable {s t : ResourceState} {name : String}
variable {changes : List (String × Option AttributeValue)} {fields : List String}

def names (s : ResourceState) : List String := s.attributes.names

theorem mem_names_iff : name ∈ s.names ↔ s.get? name ≠ none := Attributes.mem_names_iff

def kept (s t : ResourceState) : List String := s.names.filter fun name => name ∈ t.names

def added (fields : List String) (s t : ResourceState) : List String :=
  fields.filter fun name => name ∈ t.names ∧ name ∉ s.names

/-- Only the fields may differ. What is kept keeps its order, and what is added follows behind it,
in the order of the fields. -/
structure Rewritten (fields : List String) (s t : ResourceState) : Prop where
  others : ∀ name, name ∉ fields → t.get? name = s.get? name
  prior : t.prior = s.prior
  order : t.names = s.kept t ++ added fields s t

theorem kept_of_subset (h : s.names ⊆ t.names) : s.kept t = s.names :=
  List.filter_eq_self.mpr fun _ hname => decide_eq_true (h hname)

theorem rewritten_nil (s : ResourceState) : Rewritten [] s s :=
  ⟨fun _ _ => rfl, rfl, (kept_of_subset (List.Subset.refl _)).symm.trans (List.append_nil _).symm⟩

theorem rewritten_set (s : ResourceState) (name : String) (value : AttributeValue) :
    Rewritten [name] s (s.set name value) := by
  have hnames : (s.set name value).names = if name ∈ s.names then s.names else s.names ++ [name] :=
    s.attributes.names_insert name value
  refine ⟨fun key hkey => ?_, rfl, ?_⟩
  · rw [get?_set, if_neg (mt List.mem_singleton.mpr hkey)]
  · have hsubset : s.names ⊆ (s.set name value).names := by
      rw [hnames]
      split
      · exact List.Subset.refl _
      · exact List.subset_append_left _ _
    rw [kept_of_subset hsubset, hnames]
    by_cases h : name ∈ s.names
    · have hadded : added [name] s (s.set name value) = [] := by simp [added, h]
      rw [if_pos h, hadded, List.append_nil]
    · have hadded : added [name] s (s.set name value) = [name] := by simp [added, h, hnames]
      rw [if_neg h, hadded]

theorem rewritten_remove (s : ResourceState) (name : String) :
    Rewritten [name] s (s.remove name) := by
  have hnames : (s.remove name).names = s.names.filter fun key => key ≠ name :=
    s.attributes.names_erase name
  refine ⟨fun key hkey => ?_, rfl, ?_⟩
  · exact (s.get?_setOptional name none key).trans (if_neg (mt List.mem_singleton.mpr hkey))
  · have hadded : added [name] s (s.remove name) = [] := by simp [added, hnames]
    have hkept : s.kept (s.remove name) = s.names.filter fun key => key ≠ name :=
      List.filter_congr fun key hkey => by simp [hnames, hkey]
    rw [hkept, hadded, List.append_nil, hnames]

theorem rewritten_setOptional (s : ResourceState) (name : String) (value : Option AttributeValue) :
    Rewritten [name] s (s.setOptional name value) := by
  cases value with
  | none => exact s.rewritten_remove name
  | some value => exact s.rewritten_set name value

theorem Rewritten.trans {u : ResourceState} {later : List String} (h : Rewritten fields s t)
    (h' : Rewritten later t u) (hd : fields.Disjoint later) : Rewritten (fields ++ later) s u := by
  have hlater {name : String} (hname : name ∉ later) : name ∈ u.names ↔ name ∈ t.names := by
    rw [mem_names_iff, mem_names_iff, h'.others name hname]
  have hfields {name : String} (hname : name ∉ fields) : name ∈ t.names ↔ name ∈ s.names := by
    rw [mem_names_iff, mem_names_iff, h.others name hname]
  refine ⟨fun name hname => ?_, h'.prior.trans h.prior, ?_⟩
  · rw [List.mem_append, not_or] at hname
    rw [h'.others name hname.2, h.others name hname.1]
  · have hkept : (s.kept t).filter (fun name => name ∈ u.names) = s.kept u := by
      rw [kept, kept, List.filter_filter]
      refine List.filter_congr fun name hname => ?_
      by_cases hf : name ∈ fields
      · simp only [hlater (hd hf), Bool.and_self]
      · simp only [(hfields hf).mpr hname, decide_true, Bool.and_true]
    have hfirst : (added fields s t).filter (fun name => name ∈ u.names) = added fields s u := by
      rw [added, added, List.filter_filter]
      refine List.filter_congr fun name hname => ?_
      simp only [hlater (hd hname), Bool.decide_and, ← Bool.and_assoc, Bool.and_self]
    have hsecond : added later t u = added later s u := by
      refine List.filter_congr fun name hname => ?_
      simp only [hfields fun hf => hd hf hname]
    calc u.names = t.kept u ++ added later t u := h'.order
      _ = (s.kept t ++ added fields s t).filter (fun name => name ∈ u.names) ++
            added later t u := by rw [← h.order, kept]
      _ = s.kept u ++ added (fields ++ later) s u := by
        rw [List.filter_append, hkept, hfirst, hsecond, List.append_assoc, added, added, added,
          List.filter_append]

theorem rewritten_assign (hd : (changes.map Prod.fst).Nodup) :
    Rewritten (changes.map Prod.fst) s (s.assign changes) := by
  induction changes generalizing s with
  | nil => exact s.rewritten_nil
  | cons change rest ih =>
    obtain ⟨hfirst, hrest⟩ := List.nodup_cons.mp hd
    exact (s.rewritten_setOptional change.1 change.2).trans (ih hrest)
      (List.singleton_disjoint.mpr hfirst)

theorem Shows.get?_eq (h : s.Shows changes) (h' : t.Shows changes)
    (hname : name ∈ changes.map Prod.fst) : s.get? name = t.get? name := by
  obtain ⟨change, hchange, rfl⟩ := List.mem_map.mp hname
  rw [h change hchange, h' change hchange]

end ResourceState

end Monitoring
