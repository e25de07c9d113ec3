import Monitoring.State.AttributeValue

namespace Monitoring

structure Attributes where
  entries : List (String × AttributeValue)
  distinct : (entries.map Prod.fst).Nodup

namespace Attributes

def putEntry (name : String) (value : AttributeValue) :
    List (String × AttributeValue) → List (String × AttributeValue)
  | [] => [(name, value)]
  | (n, v) :: rest =>
    if n = name then (n, value) :: rest else (n, v) :: putEntry name value rest

theorem map_fst_putEntry (name : String) (value : AttributeValue)
    (es : List (String × AttributeValue)) :
    (putEntry name value es).map Prod.fst =
      if name ∈ es.map Prod.fst then es.map Prod.fst else es.map Prod.fst ++ [name] := by
  induction es with
  | nil => simp [putEntry]
  | cons e rest ih =>
    obtain ⟨n, v⟩ := e
    by_cases h : n = name
    · simp [putEntry, h]
    · have h' : name ≠ n := fun e => h e.symm
      simp only [putEntry, h, if_false, List.map_cons, ih, List.mem_cons, h', false_or]
      split <;> simp

theorem distinct_putEntry {name : String} {value : AttributeValue}
    {es : List (String × AttributeValue)} (h : (es.map Prod.fst).Nodup) :
    ((putEntry name value es).map Prod.fst).Nodup := by
  rw [map_fst_putEntry]
  split
  · exact h
  · rename_i hn
    exact List.nodup_append.2 ⟨h, by simp, by
      rintro a ha b hb rfl
      exact hn (by rwa [List.mem_singleton.1 hb] at ha)⟩

def empty : Attributes := ⟨[], List.nodup_nil⟩

def get? (as : Attributes) (name : String) : Option AttributeValue := as.entries.lookup name

def insert (as : Attributes) (name : String) (value : AttributeValue) : Attributes :=
  ⟨putEntry name value as.entries, distinct_putEntry as.distinct⟩

def erase (as : Attributes) (name : String) : Attributes :=
  ⟨as.entries.filter fun e => e.1 ≠ name,
    List.Nodup.sublist (List.Sublist.map Prod.fst List.filter_sublist) as.distinct⟩

def names (as : Attributes) : List String := as.entries.map Prod.fst

end Attributes

end Monitoring
