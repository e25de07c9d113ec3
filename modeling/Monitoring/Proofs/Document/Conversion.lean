import Monitoring.Document.Value
import Monitoring.Proofs.Result

namespace Monitoring

theorem Number.int64?_eq_some_iff {n : Number} {i : Int64} :
    n.int64? = some i ↔ n = .whole i.toInt := by
  cases n with
  | fraction x => exact ⟨nofun, nofun⟩
  | whole m =>
    rw [int64?, Option.ite_none_right_eq_some, Option.some.injEq, whole.injEq]
    constructor
    · rintro ⟨⟨hmin, hmax⟩, rfl⟩
      rw [Int64.toInt_maxValue] at hmax
      exact (Int64.toInt_ofInt_of_le hmin (by omega)).symm
    · rintro rfl
      exact ⟨⟨i.minValue_le_toInt, i.toInt_le⟩, Int64.ofInt_toInt i⟩

namespace Value

mutual

def parts : Value → List Value
  | list items => list items :: partsOfItems items
  | object fields => object fields :: partsOfFields fields
  | v => [v]

def partsOfItems : List Value → List Value
  | [] => []
  | item :: rest => item.parts ++ partsOfItems rest

def partsOfFields : List (String × Value) → List Value
  | [] => []
  | (_, value) :: rest => value.parts ++ partsOfFields rest

end

def refusal? : Value → Option UnsupportedValue
  | null => some .null
  | object _ => some .object
  | _ => none

/-- The attribute value has the same lists, texts and truth values. A number is an integer where it
is one of 64 bits with a sign, and else the double that it has. -/
inductive Becomes : Value → AttributeValue → Prop
  | boolean (b : Bool) : Becomes (.boolean b) (.boolean b)
  | integer {n : Number} {i : Int64} (exact : n = .whole i.toInt) : Becomes (.number n) (.integer i)
  | decimal {n : Number} (other : ∀ i : Int64, n ≠ .whole i.toInt) :
      Becomes (.number n) (.decimal n.toFloat)
  | string (s : String) : Becomes (.string s) (.string s)
  | list {items : List Value} {values : List AttributeValue}
      (each : List.Forall₂ Becomes items values) : Becomes (.list items) (.list values)

theorem toAttribute_number_eq_ok_iff {n : Number} {a : AttributeValue} :
    (number n).toAttribute = .ok a ↔ (number n).Becomes a := by
  rw [toAttribute]
  cases hi : n.int64? with
  | some i =>
    have hn := Number.int64?_eq_some_iff.mp hi
    constructor
    · rintro ⟨⟩
      exact .integer hn
    · intro h
      cases h with
      | integer exact =>
        rw [Number.int64?_eq_some_iff.mpr exact] at hi
        cases hi
        rfl
      | decimal other => exact absurd hn (other i)
  | none =>
    have other (i : Int64) : n ≠ .whole i.toInt := fun hn => by
      rw [Number.int64?_eq_some_iff.mpr hn] at hi
      cases hi
    constructor
    · rintro ⟨⟩
      exact .decimal other
    · intro h
      cases h with
      | integer exact => exact absurd exact (other _)
      | decimal => rfl

mutual

theorem toAttribute_eq_ok_iff : (v : Value) → {a : AttributeValue} →
    (v.toAttribute = .ok a ↔ v.Becomes a)
  | null, _ => ⟨nofun, nofun⟩
  | boolean b, _ => ⟨fun h => by cases h; exact .boolean b, fun h => by cases h; rfl⟩
  | number n, _ => toAttribute_number_eq_ok_iff
  | string s, _ => ⟨fun h => by cases h; exact .string s, fun h => by cases h; rfl⟩
  | object _, _ => ⟨nofun, nofun⟩
  | list items, _ => by
    rw [toAttribute, Result.map_eq_ok_iff]
    constructor
    · rintro ⟨values, h, rfl⟩
      exact .list ((itemsToAttributes_eq_ok_iff items).mp h)
    · rintro ⟨⟩
      rename_i each
      exact ⟨_, (itemsToAttributes_eq_ok_iff items).mpr each, rfl⟩

theorem itemsToAttributes_eq_ok_iff : (items : List Value) → {values : List AttributeValue} →
    (itemsToAttributes items = .ok values ↔ List.Forall₂ Becomes items values)
  | [], _ => by
    rw [itemsToAttributes, List.forall₂_nil_left_iff, Except.ok.injEq, eq_comm]
  | item :: rest, _ => by
    rw [itemsToAttributes, Result.bind_eq_ok_iff, List.forall₂_cons_left_iff]
    constructor
    · rintro ⟨a, ha, h⟩
      obtain ⟨others, hothers, h⟩ := Result.bind_eq_ok_iff.mp h
      cases h
      exact ⟨a, others, (toAttribute_eq_ok_iff item).mp ha,
        (itemsToAttributes_eq_ok_iff rest).mp hothers, rfl⟩
    · rintro ⟨a, others, ha, hothers, rfl⟩
      exact ⟨a, (toAttribute_eq_ok_iff item).mpr ha, Result.bind_eq_ok_iff.mpr
        ⟨others, (itemsToAttributes_eq_ok_iff rest).mpr hothers, rfl⟩⟩

end

mutual

theorem toAttribute_eq_error_iff {reason : UnsupportedValue} : (v : Value) →
    (v.toAttribute = .error reason ↔ v.parts.findSome? refusal? = some reason)
  | null => by rw [toAttribute, Except.error.injEq]; exact Option.some_inj.symm
  | boolean b => ⟨nofun, nofun⟩
  | number n => by
    rw [toAttribute]
    refine ⟨fun h => ?_, nofun⟩
    split at h <;> cases h
  | string s => ⟨nofun, nofun⟩
  | object fields => by rw [toAttribute, Except.error.injEq]; exact Option.some_inj.symm
  | list items => by
    rw [toAttribute, Result.map_eq_error_iff, itemsToAttributes_eq_error_iff items]
    rfl

theorem itemsToAttributes_eq_error_iff {reason : UnsupportedValue} : (items : List Value) →
    (itemsToAttributes items = .error reason ↔
      (partsOfItems items).findSome? refusal? = some reason)
  | [] => ⟨nofun, nofun⟩
  | item :: rest => by
    have hitem (reason : UnsupportedValue) :
        item.toAttribute = .error reason ↔ item.parts.findSome? refusal? = some reason :=
      toAttribute_eq_error_iff item
    rw [itemsToAttributes, Result.bind_eq_error_iff, partsOfItems, List.findSome?_append,
      Option.or_eq_some_iff, ← hitem, ← itemsToAttributes_eq_error_iff rest]
    refine or_congr Iff.rfl ⟨?_, ?_⟩
    · rintro ⟨a, ha, h⟩
      obtain h | ⟨_, -, h⟩ := Result.bind_eq_error_iff.mp h
      · refine ⟨Option.eq_none_iff_forall_ne_some.mpr fun r hr => ?_, h⟩
        cases ha.symm.trans ((hitem r).mpr hr)
      · cases h
    · rintro ⟨hnone, h⟩
      cases hi : item.toAttribute with
      | error r => cases hnone.symm.trans ((hitem r).mp hi)
      | ok a => exact ⟨a, rfl, Result.bind_eq_error_iff.mpr (.inl h)⟩

end

theorem isSome_refusal?_iff {v : Value} :
    (refusal? v).isSome ↔ v = .null ∨ ∃ fields, v = .object fields := by
  cases v <;> simp [refusal?]

theorem exists_error_iff {v : Value} :
    (∃ reason, v.toAttribute = .error reason) ↔
      ∃ part ∈ v.parts, part = .null ∨ ∃ fields, part = .object fields := by
  simp only [toAttribute_eq_error_iff, ← Option.isSome_iff_exists, List.findSome?_isSome_iff,
    isSome_refusal?_iff]

end Value

end Monitoring
