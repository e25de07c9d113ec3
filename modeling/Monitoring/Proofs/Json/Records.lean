import Monitoring.Json.Record
import Monitoring.Proofs.Json.Canonical
import Monitoring.Proofs.Lookup

namespace Monitoring.Json

open Lookup (lookup_cons_eq_ite)

def field? (name : String) : Json → Option Json
  | object fields => fields.lookup name
  | _ => none

section Lookup

variable {key name : String} {value : Json} {fields map : List (String × Json)}

theorem lookup_insertField :
    (insertField key value map).lookup name = if name = key then some value else map.lookup name := by
  induction map with
  | nil => exact lookup_cons_eq_ite key value [] name
  | cons first rest ih =>
    obtain ⟨k, v⟩ := first
    unfold insertField
    split
    · rw [lookup_cons_eq_ite]
    split
    · rename_i h
      subst h
      rw [lookup_cons_eq_ite, lookup_cons_eq_ite]
      by_cases hn : name = key <;> simp [hn]
    · rename_i hne
      rw [lookup_cons_eq_ite, lookup_cons_eq_ite, ih]
      by_cases hn : name = key
      · have hk : name ≠ k := fun hk => hne (hn.symm.trans hk)
        rw [if_neg hk, if_pos hn, if_pos hn]
      · rw [if_neg hn, if_neg hn]

theorem lookup_canonicalFields :
    (canonicalFields map fields).lookup name =
      ((fields.reverse.lookup name).map canonical).or (map.lookup name) := by
  induction fields generalizing map with
  | nil => rfl
  | cons first rest ih =>
    obtain ⟨k, v⟩ := first
    rw [canonicalFields, ih, lookup_insertField, List.reverse_cons, List.lookup_append, lookup_cons_eq_ite]
    cases rest.reverse.lookup name with
    | some found => rfl
    | none => by_cases h : name = k <;> simp [h]

@[simp]
theorem field?_canonical_object :
    (object fields).canonical.field? name = (fields.reverse.lookup name).map canonical := by
  rw [canonical, field?, lookup_canonicalFields, List.lookup_nil, Option.or_none]

theorem length_filter_of_pairwise (h : map.Pairwise fun f g => f.1 < g.1) (name : String) :
    (map.filter fun field => field.1 = name).length ≤ 1 := by
  have hp := h.filter fun field => decide (field.1 = name)
  have hname : ∀ field ∈ map.filter fun field => field.1 = name, field.1 = name :=
    fun field hm => of_decide_eq_true (List.mem_filter.mp hm).2
  generalize (map.filter fun field => decide (field.1 = name)) = found at hp hname ⊢
  match found with
  | [] => exact Nat.zero_le 1
  | [_] => exact Nat.le_refl 1
  | f :: g :: rest =>
    have hf := hname f List.mem_cons_self
    have hg := hname g (List.mem_cons_of_mem f List.mem_cons_self)
    have hlt := (List.pairwise_cons.mp hp).1 g List.mem_cons_self
    rw [hf, hg] at hlt
    exact absurd hlt (String.lt_irrefl name)

theorem named?_canonical_object (names : List String) :
    (object fields).canonical.named? names = some (canonicalFields [] fields) := by
  rw [canonical, named?, if_pos]
  rw [List.all_eq_true]
  intro name _
  exact decide_eq_true (length_filter_of_pairwise (pairwise_canonicalFields .nil) name)

@[simp]
theorem lookup_reverse_optionalField (key : String) (text : Option String) (name : String) :
    (optionalField key text).reverse.lookup name =
      if name = key then text.map string else none := by
  cases text with
  | none => simp [optionalField]
  | some s => exact lookup_cons_eq_ite key (string s) [] name

@[simp]
theorem lookup_reverse_nonEmptyField (key : String) (items : List String) (name : String) :
    (nonEmptyField key items).reverse.lookup name =
      if name = key ∧ items ≠ [] then some (array (items.map string)) else none := by
  cases items with
  | nil => simp [nonEmptyField]
  | cons first rest =>
    rw [nonEmptyField, List.reverse_singleton, lookup_cons_eq_ite, List.lookup_nil]
    · simp
    · exact nofun

end Lookup

@[simp]
theorem canonical_boolean (b : Bool) : (boolean b).canonical = boolean b := rfl

@[simp]
theorem canonical_integer (n : Int) : (integer n).canonical = integer n := rfl

section Texts

variable (items : List String)

@[simp]
theorem canonical_string (s : String) : (string s).canonical = string s := rfl

theorem canonicalItems_map_string : canonicalItems (items.map string) = items.map string := by
  induction items with
  | nil => rfl
  | cons first rest ih => rw [List.map_cons, canonicalItems, ih, canonical_string]

@[simp]
theorem canonical_array_map_string :
    (array (items.map string)).canonical = array (items.map string) := by
  rw [canonical, canonicalItems_map_string]

theorem legibleItems_map_string : LegibleItems (items.map string) := by
  induction items with
  | nil => trivial
  | cons first rest ih => exact ⟨trivial, ih⟩

theorem strings?_array_map_string : (array (items.map string)).strings? = some items := by
  rw [strings?]
  induction items with
  | nil => rfl
  | cons first rest ih => rw [List.map_cons, List.mapM_cons, ih]; rfl

theorem depthOfItems_map_string : depthOfItems (items.map string) = 0 := by
  induction items with
  | nil => rfl
  | cons first rest ih =>
    rw [List.map_cons, depthOfItems, ih]
    rfl

theorem fst_of_mem_optionalField {key : String} {text : Option String} {field : String × Json}
    (h : field ∈ optionalField key text) : field.1 = key := by
  cases text with
  | none => exact absurd h List.not_mem_nil
  | some s => rw [List.mem_singleton.mp h]

theorem fst_of_mem_nonEmptyField {key : String} {items : List String} {field : String × Json}
    (h : field ∈ nonEmptyField key items) : field.1 = key := by
  cases items with
  | nil => exact absurd h List.not_mem_nil
  | cons first rest => rw [List.mem_singleton.mp h]

theorem legible_of_mem_optionalField {key : String} {text : Option String}
    {field : String × Json} (h : field ∈ optionalField key text) : field.2.Legible := by
  cases text with
  | none => exact absurd h List.not_mem_nil
  | some s =>
    obtain rfl := List.mem_singleton.mp h
    trivial

theorem legible_of_mem_nonEmptyField {key : String} {items : List String}
    {field : String × Json} (h : field ∈ nonEmptyField key items) : field.2.Legible := by
  cases items with
  | nil => exact absurd h List.not_mem_nil
  | cons first rest =>
    obtain rfl := List.mem_singleton.mp h
    exact legibleItems_map_string (first :: rest)

theorem depth_le_of_mem_optionalField {key : String} {text : Option String}
    {field : String × Json} (h : field ∈ optionalField key text) : field.2.depth ≤ 1 := by
  cases text with
  | none => exact absurd h List.not_mem_nil
  | some s =>
    obtain rfl := List.mem_singleton.mp h
    exact Nat.zero_le 1

theorem depth_le_of_mem_nonEmptyField {key : String} {items : List String}
    {field : String × Json} (h : field ∈ nonEmptyField key items) : field.2.depth ≤ 1 := by
  cases items with
  | nil => exact absurd h List.not_mem_nil
  | cons first rest =>
    obtain rfl := List.mem_singleton.mp h
    exact Nat.succ_le_succ (Nat.le_of_eq (depthOfItems_map_string (first :: rest)))

end Texts

section Reading

variable {α : Type} {read : Json → Option α} {name : String} {fields : List (String × Json)}

theorem required_of_field? {found : Json} (h : (object fields).canonical.field? name = some found) :
    required read name (canonicalFields [] fields) = read found := by
  have hl : (canonicalFields [] fields).lookup name = some found := h
  rw [required, hl, Option.bind_some]

theorem filter_of_field? {found : Json} (h : (object fields).canonical.field? name = some found) :
    ((canonicalFields [] fields).filter fun field => field.1 = name) = [(name, found)] := by
  have hl : (canonicalFields [] fields).lookup name = some found := h
  have hm : (name, found) ∈ (canonicalFields [] fields).filter fun field => field.1 = name :=
    List.mem_filter.mpr ⟨Lookup.mem_of_lookup_eq_some hl, decide_eq_true rfl⟩
  have hsorted : (canonicalFields [] fields).Pairwise fun f g => f.1 < g.1 :=
    pairwise_canonicalFields .nil
  have hlength := length_filter_of_pairwise hsorted name
  obtain ⟨field, hsingle⟩ := List.length_eq_one_iff.mp
    (Nat.le_antisymm hlength (List.length_pos_of_mem hm))
  rw [hsingle] at hm ⊢
  rw [List.mem_singleton.mp hm]

theorem optional_of_field? {text : Option String}
    (h : (object fields).canonical.field? name = text.map string) :
    optional string? name (canonicalFields [] fields) = some text := by
  have hl : (canonicalFields [] fields).lookup name = text.map string := h
  rw [optional, hl]
  cases text <;> rfl

theorem stringsOrEmpty_of_array {items : List String}
    (h : (object fields).canonical.field? name = some (array (items.map string))) :
    stringsOrEmpty name (canonicalFields [] fields) = some items := by
  have hl : (canonicalFields [] fields).lookup name = some (array (items.map string)) := h
  rw [stringsOrEmpty, hl]
  exact strings?_array_map_string items

theorem stringsOrEmpty_of_field? {items : List String}
    (h : (object fields).canonical.field? name =
      if items = [] then none else some (array (items.map string))) :
    stringsOrEmpty name (canonicalFields [] fields) = some items := by
  by_cases hi : items = []
  · rw [if_pos hi] at h
    have hl : (canonicalFields [] fields).lookup name = none := h
    rw [stringsOrEmpty, hl, hi]
  · rw [if_neg hi] at h
    exact stringsOrEmpty_of_array h

end Reading

end Monitoring.Json
