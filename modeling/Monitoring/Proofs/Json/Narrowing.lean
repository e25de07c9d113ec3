import Monitoring.Proofs.Json.Records

/-!
Values without the fields that nobody asks for. Dropping them and reading objects as maps can be
done in either order, so what a record finds under its own names is not changed by other fields.
-/

namespace Monitoring.Json

open Lookup (lookup_cons_eq_ite)

/-- The names that a record has, with the records below them; of other values nothing is known. -/
inductive Known
  | value
  | record (names : List (String × Known))

def Known.flat (names : List String) : Known := .record (names.map fun name => (name, .value))

mutual

def narrow : Json → Known → Json
  | object fields, .record names => object (narrowFields names fields)
  | j, _ => j

def narrowFields (names : List (String × Known)) : List (String × Json) → List (String × Json)
  | [] => []
  | (name, j) :: rest =>
    match names.lookup name with
    | some known => (name, j.narrow known) :: narrowFields names rest
    | none => narrowFields names rest

end

/-- Both are the same value, as maps, but for fields of the first that are not known. -/
def Widens (known : Known) (j base : Json) : Prop := (j.narrow known).canonical = base.canonical

@[simp]
theorem narrow_value (j : Json) : j.narrow .value = j := by
  cases j <;> rfl

section Fields

variable {names : List (String × Known)} {name : String} {known : Known} {j value : Json}
variable {fields map : List (String × Json)}

theorem narrowFields_of_known (h : names.lookup name = some known) :
    narrowFields names ((name, j) :: fields) =
      (name, j.narrow known) :: narrowFields names fields := by
  rw [narrowFields, h]

theorem narrowFields_of_unknown (h : names.lookup name = none) :
    narrowFields names ((name, j) :: fields) = narrowFields names fields := by
  rw [narrowFields, h]

theorem narrowFields_eq_self (h : ∀ field ∈ fields, ∃ known,
    names.lookup field.1 = some known ∧ field.2.narrow known = field.2) :
    narrowFields names fields = fields := by
  induction fields with
  | nil => rfl
  | cons field rest ih =>
    obtain ⟨⟨known, hk, hj⟩, hrest⟩ := List.forall_mem_cons.mp h
    obtain ⟨name, j⟩ := field
    rw [narrowFields_of_known hk, ih hrest, hj]

theorem lookup_narrowFields (h : names.lookup name = some known) :
    (narrowFields names fields).lookup name = (fields.lookup name).map (narrow · known) := by
  induction fields with
  | nil => rfl
  | cons field rest ih =>
    obtain ⟨key, j⟩ := field
    rw [lookup_cons_eq_ite]
    by_cases hkey : name = key
    · subst hkey
      rw [narrowFields_of_known h, lookup_cons_eq_ite, if_pos rfl, if_pos rfl, Option.map_some]
    · rw [if_neg hkey, ← ih]
      cases hk : names.lookup key with
      | none => rw [narrowFields_of_unknown hk]
      | some known => rw [narrowFields_of_known hk, lookup_cons_eq_ite, if_neg hkey]

theorem forall_mem_narrowFields {p : String → Prop} (h : ∀ field ∈ fields, p field.1) :
    ∀ field ∈ narrowFields names fields, p field.1 := by
  induction fields with
  | nil => nofun
  | cons field rest ih =>
    obtain ⟨key, j⟩ := field
    obtain ⟨hkey, hrest⟩ := List.forall_mem_cons.mp h
    cases hk : names.lookup key with
    | none =>
      rw [narrowFields_of_unknown hk]
      exact ih hrest
    | some known =>
      rw [narrowFields_of_known hk]
      exact List.forall_mem_cons.mpr ⟨hkey, ih hrest⟩

theorem insertField_of_forall_gt {key : String} (h : ∀ field ∈ map, key < field.1) :
    insertField key value map = (key, value) :: map := by
  cases map with
  | nil => rfl
  | cons first rest =>
    obtain ⟨k, v⟩ := first
    rw [insertField, if_pos (h _ List.mem_cons_self)]

theorem insertField_of_lt {key k : String} {v : Json} (h : k < key) :
    insertField key value ((k, v) :: map) = (k, v) :: insertField key value map := by
  rw [insertField, if_neg (String.lt_asymm h), if_neg]
  rintro rfl
  exact String.lt_irrefl key h

theorem insertField_self {key : String} {v : Json} :
    insertField key value ((key, v) :: map) = (key, value) :: map := by
  rw [insertField, if_neg (String.lt_irrefl key), if_pos rfl]

theorem narrowFields_insertField_of_unknown {key : String} (hk : names.lookup key = none) :
    narrowFields names (insertField key value map) = narrowFields names map := by
  induction map with
  | nil => exact narrowFields_of_unknown hk
  | cons first rest ih =>
    obtain ⟨k, v⟩ := first
    unfold insertField
    split
    · exact narrowFields_of_unknown hk
    split
    · rename_i heq
      rw [narrowFields_of_unknown hk, narrowFields_of_unknown (heq ▸ hk)]
    · cases hn : names.lookup k with
      | none => rw [narrowFields_of_unknown hn, narrowFields_of_unknown hn, ih]
      | some known => rw [narrowFields_of_known hn, narrowFields_of_known hn, ih]

theorem narrowFields_insertField {key : String} (hk : names.lookup key = some known)
    (hm : map.Pairwise fun f g => f.1 < g.1) :
    narrowFields names (insertField key value map) =
      insertField key (value.narrow known) (narrowFields names map) := by
  induction map with
  | nil => exact narrowFields_of_known hk
  | cons first rest ih =>
    obtain ⟨k, v⟩ := first
    obtain ⟨hfirst, hrest⟩ := List.pairwise_cons.mp hm
    by_cases hlt : key < k
    · have hless : ∀ field ∈ (k, v) :: rest, key < field.1 :=
        List.forall_mem_cons.mpr ⟨hlt, fun field h => String.lt_trans hlt (hfirst field h)⟩
      rw [insertField_of_forall_gt hless, narrowFields_of_known hk,
        insertField_of_forall_gt (forall_mem_narrowFields hless)]
    by_cases heq : key = k
    · subst heq
      rw [insertField_self, narrowFields_of_known hk, narrowFields_of_known hk, insertField_self]
    have hgt : k < key := lt_of_not_lt_of_ne hlt heq
    rw [insertField_of_lt hgt]
    cases hn : names.lookup k with
    | none => rw [narrowFields_of_unknown hn, narrowFields_of_unknown hn, ih hrest]
    | some knownThere =>
      rw [narrowFields_of_known hn, narrowFields_of_known hn, ih hrest, insertField_of_lt hgt]

theorem lookup_flat {names : List String} (h : name ∈ names) :
    (names.map fun name => (name, Known.value)).lookup name = some .value := by
  induction names with
  | nil => cases h
  | cons first rest ih =>
    rw [List.map_cons, lookup_cons_eq_ite]
    by_cases hn : name = first
    · rw [if_pos hn]
    · rw [if_neg hn]
      exact ih ((List.mem_cons.mp h).resolve_left hn)

theorem narrow_flat {names : List String} (h : ∀ field ∈ fields, field.1 ∈ names) :
    (object fields).narrow (.flat names) = object fields := by
  refine congrArg object (narrowFields_eq_self fun field hm => ?_)
  exact ⟨.value, lookup_flat (h field hm), narrow_value field.2⟩

end Fields

mutual

theorem canonical_narrow : (j : Json) → (known : Known) →
    (j.narrow known).canonical = j.canonical.narrow known
  | null, _ => rfl
  | boolean _, _ => rfl
  | integer _, _ => rfl
  | decimal _, _ => rfl
  | string _, _ => rfl
  | array _, _ => rfl
  | object _, .value => rfl
  | object fields, .record names =>
    congrArg object (canonicalFields_narrowFields names fields [] .nil)

theorem canonicalFields_narrowFields (names : List (String × Known)) :
    (fields map : List (String × Json)) → map.Pairwise (fun f g => f.1 < g.1) →
    canonicalFields (narrowFields names map) (narrowFields names fields) =
      narrowFields names (canonicalFields map fields)
  | [], _, _ => rfl
  | (key, value) :: rest, map, hm => by
    have hrest := canonicalFields_narrowFields names rest (insertField key value.canonical map)
      (pairwise_insertField hm)
    rw [canonicalFields, ← hrest]
    cases hk : names.lookup key with
    | none => rw [narrowFields_of_unknown hk, narrowFields_insertField_of_unknown hk]
    | some known =>
      rw [narrowFields_of_known hk, narrowFields_insertField hk hm, canonicalFields,
        canonical_narrow value known]

end

namespace Widens

variable {known : Known} {names : List (String × Known)} {name : String} {j base : Json}

theorem of_narrow_eq (h : j.narrow known = base) : Widens known j base := congrArg canonical h

theorem narrow_canonical (h : Widens known j base) : j.canonical.narrow known = base.canonical :=
  (canonical_narrow j known).symm.trans h

theorem exists_object {fields : List (String × Json)} (h : Widens known j (object fields)) :
    ∃ found, j = object found := by
  cases j with
  | object found => exact ⟨found, rfl⟩
  | null => cases h
  | boolean => cases h
  | integer => cases h
  | decimal => cases h
  | string => cases h
  | array => cases h

theorem field?_eq (h : Widens (.record names) j base) (hk : names.lookup name = some known) :
    (j.canonical.field? name).map (narrow · known) = base.canonical.field? name := by
  rw [← h.narrow_canonical]
  generalize j.canonical = found
  cases found with
  | object fields => exact (lookup_narrowFields hk).symm
  | null => rfl
  | boolean => rfl
  | integer => rfl
  | decimal => rfl
  | string => rfl
  | array => rfl

theorem field?_value (h : Widens (.record names) j base) (hk : names.lookup name = some .value) :
    j.canonical.field? name = base.canonical.field? name := by
  have hfield := h.field?_eq hk
  have hid : (narrow · .value) = id := funext narrow_value
  rwa [hid, Option.map_id, id] at hfield

theorem field?_flat {names : List String} (h : Widens (.flat names) j base) (hn : name ∈ names) :
    j.canonical.field? name = base.canonical.field? name :=
  h.field?_value (lookup_flat hn)

theorem exists_field {value : Json} {fields : List (String × Json)}
    (h : Widens (.record names) j base) (hj : j = object fields)
    (hk : names.lookup name = some known)
    (hv : base.canonical.field? name = some value.canonical) :
    ∃ found, Widens known found value ∧ j.canonical.field? name = some found.canonical := by
  have hfield := h.field?_eq hk
  rw [hv, hj, field?_canonical_object] at hfield
  rw [hj, field?_canonical_object]
  obtain ⟨found, hfound, hnarrow⟩ := Option.map_eq_some_iff.mp hfield
  obtain ⟨raw, hraw, rfl⟩ := Option.map_eq_some_iff.mp hfound
  exact ⟨raw, (canonical_narrow raw known).trans hnarrow, by rw [hraw, Option.map_some]⟩

end Widens

end Monitoring.Json
