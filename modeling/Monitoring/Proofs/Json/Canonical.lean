import Monitoring.Proofs.Json.RoundTrip

namespace Monitoring.Json

mutual

def IsCanonical : Json → Prop
  | array items => CanonicalItems items
  | object fields => fields.Pairwise (fun f g => f.1 < g.1) ∧ CanonicalFields fields
  | _ => True

def CanonicalItems : List Json → Prop
  | [] => True
  | item :: rest => item.IsCanonical ∧ CanonicalItems rest

def CanonicalFields : List (String × Json) → Prop
  | [] => True
  | (_, value) :: rest => value.IsCanonical ∧ CanonicalFields rest

end

theorem canonicalFields_iff {fields : List (String × Json)} :
    CanonicalFields fields ↔ ∀ field ∈ fields, field.2.IsCanonical := by
  induction fields with
  | nil => simp [CanonicalFields]
  | cons field rest ih => rw [CanonicalFields, ih, List.forall_mem_cons]

theorem legibleItems_iff {items : List Json} :
    LegibleItems items ↔ ∀ item ∈ items, item.Legible := by
  induction items with
  | nil => simp [LegibleItems]
  | cons item rest ih => rw [LegibleItems, ih, List.forall_mem_cons]

theorem legibleFields_iff {fields : List (String × Json)} :
    LegibleFields fields ↔ ∀ field ∈ fields, field.2.Legible := by
  induction fields with
  | nil => simp [LegibleFields]
  | cons field rest ih => rw [LegibleFields, ih, List.forall_mem_cons]

theorem depthOfFields_le_iff {fields : List (String × Json)} {room : Nat} :
    depthOfFields fields ≤ room ↔ ∀ field ∈ fields, field.2.depth ≤ room := by
  have h := all_depth_fields room fields
  rw [Bool.eq_iff_iff, List.all_eq_true] at h
  simpa only [decide_eq_true_eq] using h.symm

theorem lt_of_not_lt_of_ne {s t : String} (hlt : ¬s < t) (hne : s ≠ t) : t < s := by
  apply String.not_le.mp
  intro hle
  exact hne (String.le_antisymm (String.not_lt.mp hlt) hle).symm

section Insertion

variable {key : String} {value : Json} {map : List (String × Json)}

theorem mem_insertField {field : String × Json} (h : field ∈ insertField key value map) :
    field = (key, value) ∨ field ∈ map := by
  induction map with
  | nil => exact .inl (List.mem_singleton.mp h)
  | cons first rest ih =>
    obtain ⟨k, v⟩ := first
    unfold insertField at h
    split at h
    · exact List.mem_cons.mp h
    split at h
    · rcases List.mem_cons.mp h with rfl | h
      · exact .inl rfl
      · exact .inr (List.mem_cons_of_mem _ h)
    · rcases List.mem_cons.mp h with rfl | h
      · exact .inr List.mem_cons_self
      · exact (ih h).imp_right (List.mem_cons_of_mem _)

theorem pairwise_insertField (h : map.Pairwise fun f g => f.1 < g.1) :
    (insertField key value map).Pairwise fun f g => f.1 < g.1 := by
  induction map with
  | nil => exact List.pairwise_singleton _ _
  | cons first rest ih =>
    obtain ⟨k, v⟩ := first
    obtain ⟨hfirst, hrest⟩ := List.pairwise_cons.mp h
    unfold insertField
    split
    case isTrue hlt =>
      refine List.pairwise_cons.mpr ⟨?_, h⟩
      intro g hg
      rcases List.mem_cons.mp hg with rfl | hg
      · exact hlt
      · exact String.lt_trans hlt (hfirst g hg)
    case isFalse hlt =>
      split
      case isTrue heq =>
        subst heq
        exact List.pairwise_cons.mpr ⟨hfirst, hrest⟩
      case isFalse hne =>
        have hgt : k < key := lt_of_not_lt_of_ne hlt hne
        refine List.pairwise_cons.mpr ⟨?_, ih hrest⟩
        intro g hg
        rcases mem_insertField hg with rfl | hg
        · exact hgt
        · exact hfirst g hg

theorem insertField_of_forall_lt (h : ∀ field ∈ map, field.1 < key) :
    insertField key value map = map ++ [(key, value)] := by
  induction map with
  | nil => rfl
  | cons first rest ih =>
    obtain ⟨k, v⟩ := first
    obtain ⟨hlt, hrest⟩ := List.forall_mem_cons.mp h
    rw [insertField, if_neg (String.lt_asymm hlt), if_neg, ih hrest, List.cons_append]
    rintro rfl
    exact String.lt_irrefl key hlt

theorem forall_mem_canonicalFields {p : String × Json → Prop} {fields : List (String × Json)}
    (hm : ∀ field ∈ map, p field) (hf : ∀ field ∈ fields, p (field.1, field.2.canonical)) :
    ∀ field ∈ canonicalFields map fields, p field := by
  induction fields generalizing map with
  | nil => exact hm
  | cons first rest ih =>
    obtain ⟨hfirst, hrest⟩ := List.forall_mem_cons.mp hf
    apply ih _ hrest
    intro field h
    rcases mem_insertField h with rfl | h
    · exact hfirst
    · exact hm field h

theorem pairwise_canonicalFields {fields : List (String × Json)}
    (h : map.Pairwise fun f g => f.1 < g.1) :
    (canonicalFields map fields).Pairwise fun f g => f.1 < g.1 := by
  induction fields generalizing map with
  | nil => exact h
  | cons field rest ih => exact ih (pairwise_insertField h)

end Insertion

mutual

theorem isCanonical_canonical : (j : Json) → j.canonical.IsCanonical
  | null => trivial
  | boolean _ => trivial
  | integer _ => trivial
  | decimal _ => trivial
  | string _ => trivial
  | array items => canonicalItems_canonical items
  | object fields =>
    ⟨pairwise_canonicalFields .nil, canonicalFields_iff.mpr <|
      forall_mem_canonicalFields nofun (isCanonical_canonical_fields fields)⟩

theorem canonicalItems_canonical : (items : List Json) → CanonicalItems (canonicalItems items)
  | [] => trivial
  | item :: rest => ⟨isCanonical_canonical item, canonicalItems_canonical rest⟩

theorem isCanonical_canonical_fields : (fields : List (String × Json)) →
    ∀ field ∈ fields, field.2.canonical.IsCanonical
  | [] => nofun
  | (_, value) :: rest =>
    List.forall_mem_cons.mpr ⟨isCanonical_canonical value, isCanonical_canonical_fields rest⟩

end

mutual

theorem Legible.canonical : (j : Json) → j.Legible → j.canonical.Legible
  | null, h => h
  | boolean _, h => h
  | integer _, h => h
  | decimal _, h => h
  | string _, h => h
  | array items, h => Legible.canonicalItems items h
  | object fields, h =>
    legibleFields_iff.mpr <| forall_mem_canonicalFields nofun (Legible.canonicalFields fields h)

theorem Legible.canonicalItems : (items : List Json) → LegibleItems items →
    LegibleItems (canonicalItems items)
  | [], h => h
  | item :: rest, h => ⟨Legible.canonical item h.1, Legible.canonicalItems rest h.2⟩

theorem Legible.canonicalFields : (fields : List (String × Json)) → LegibleFields fields →
    ∀ field ∈ fields, field.2.canonical.Legible
  | [], _ => nofun
  | (_, value) :: rest, h =>
    List.forall_mem_cons.mpr ⟨Legible.canonical value h.1, Legible.canonicalFields rest h.2⟩

end

mutual

theorem IsCanonical.canonical_eq : (j : Json) → j.IsCanonical → j.canonical = j
  | null, _ => rfl
  | boolean _, _ => rfl
  | integer _, _ => rfl
  | decimal _, _ => rfl
  | string _, _ => rfl
  | array items, h => congrArg array (IsCanonical.canonicalItems_eq items h)
  | object fields, h => congrArg object (IsCanonical.canonicalFields_eq fields h.2 [] h.1)

theorem IsCanonical.canonicalItems_eq : (items : List Json) → CanonicalItems items →
    canonicalItems items = items
  | [], _ => rfl
  | item :: rest, h => by
    rw [canonicalItems, IsCanonical.canonical_eq item h.1, IsCanonical.canonicalItems_eq rest h.2]

theorem IsCanonical.canonicalFields_eq : (fields : List (String × Json)) →
    CanonicalFields fields → (map : List (String × Json)) →
    (map ++ fields).Pairwise (fun f g => f.1 < g.1) → canonicalFields map fields = map ++ fields
  | [], _, map, _ => (List.append_nil map).symm
  | (key, value) :: rest, h, map, hp => by
    have hlast : ∀ field ∈ map, field.1 < key := fun field hm =>
      (List.pairwise_append.mp hp).2.2 field hm (key, value) List.mem_cons_self
    have hmap : map ++ (key, value) :: rest = (map ++ [(key, value)]) ++ rest := by simp
    rw [canonicalFields, IsCanonical.canonical_eq value h.1, insertField_of_forall_lt hlast, hmap]
    rw [hmap] at hp
    exact IsCanonical.canonicalFields_eq rest h.2 _ hp

end

mutual

theorem depth_canonical_le : (j : Json) → j.canonical.depth ≤ j.depth
  | null => Nat.le_refl 0
  | boolean _ => Nat.le_refl 0
  | integer _ => Nat.le_refl 0
  | decimal _ => Nat.le_refl 0
  | string _ => Nat.le_refl 0
  | array items => Nat.succ_le_succ (depth_canonicalItems_le items)
  | object fields => by
    apply Nat.succ_le_succ
    rw [depthOfFields_le_iff]
    exact forall_mem_canonicalFields nofun (depth_canonical_fields_le fields)

theorem depth_canonicalItems_le : (items : List Json) →
    depthOfItems (canonicalItems items) ≤ depthOfItems items
  | [] => Nat.le_refl 0
  | item :: rest => by
    rw [canonicalItems, depthOfItems, depthOfItems]
    have hitem := depth_canonical_le item
    have hrest := depth_canonicalItems_le rest
    omega

theorem depth_canonical_fields_le : (fields : List (String × Json)) →
    ∀ field ∈ fields, field.2.canonical.depth ≤ depthOfFields fields
  | [] => nofun
  | (_, value) :: rest => by
    rw [List.forall_mem_cons, depthOfFields]
    refine ⟨Nat.le_trans (depth_canonical_le value) (Nat.le_max_left _ _), fun field hfield => ?_⟩
    exact Nat.le_trans (depth_canonical_fields_le rest field hfield) (Nat.le_max_right _ _)

end

theorem canonical_canonical (j : Json) : j.canonical.canonical = j.canonical :=
  (isCanonical_canonical j).canonical_eq

end Monitoring.Json
