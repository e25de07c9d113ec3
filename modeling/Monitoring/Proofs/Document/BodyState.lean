import Monitoring.Document.Evaluation
import Monitoring.Proofs.Document.Conversion
import Monitoring.Proofs.Document.DistinctNames
import Monitoring.Proofs.State.Assignments

namespace Monitoring

namespace ResourceState

def fill (s : ResourceState) : String × Option AttributeValue → ResourceState
  | (name, some value) => s.set name value
  | (_, none) => s

def present (changes : List (String × Option AttributeValue)) : List (String × AttributeValue) :=
  changes.filterMap fun change => change.2.map (change.1, ·)

variable {s : ResourceState} {changes : List (String × Option AttributeValue)}

theorem id_foldl_fill : (changes.foldl fill s).id = s.id := by
  induction changes generalizing s with
  | nil => rfl
  | cons change rest ih =>
    rw [List.foldl_cons, ih]
    obtain ⟨name, _ | value⟩ := change <;> rfl

theorem prior_foldl_fill : (changes.foldl fill s).prior = s.prior := by
  induction changes generalizing s with
  | nil => rfl
  | cons change rest ih =>
    rw [List.foldl_cons, ih]
    obtain ⟨name, _ | value⟩ := change <;> rfl

theorem entries_foldl_fill (hd : (changes.map Prod.fst).Nodup)
    (ha : ∀ change ∈ changes, s.get? change.1 = none) :
    (changes.foldl fill s).attributes.entries = s.attributes.entries ++ present changes := by
  induction changes generalizing s with
  | nil => exact (List.append_nil _).symm
  | cons change rest ih =>
    obtain ⟨hnew, hrest⟩ := List.nodup_cons.mp hd
    obtain ⟨hfirst, hothers⟩ := List.forall_mem_cons.mp ha
    obtain ⟨name, _ | value⟩ := change
    · exact ih hrest hothers
    · have habsent : ∀ change ∈ rest, (s.set name value).get? change.1 = none := by
        intro change hchange
        have hmem : change.1 ∈ rest.map Prod.fst := List.mem_map_of_mem hchange
        have hne : change.1 ≠ name := fun h => hnew (h ▸ hmem)
        rw [get?_set, if_neg hne]
        exact hothers change hchange
      rw [List.foldl_cons, fill, ih hrest habsent, entries_set_of_absent hfirst, List.append_assoc]
      rfl

end ResourceState

namespace Value

def optional : Value → Except UnsupportedValue (Option AttributeValue)
  | null => .ok none
  | v => v.toAttribute.map some

variable {v : Value}

theorem optional_of_ne_null (h : v ≠ .null) : v.optional = v.toAttribute.map some := by
  cases v with
  | null => exact absurd rfl h
  | _ => rfl

theorem optional_eq_ok_iff {o : Option AttributeValue} :
    v.optional = .ok o ↔ v = .null ∧ o = none ∨ ∃ a, v.Becomes a ∧ o = some a := by
  by_cases h : v = .null
  · subst h
    constructor
    · rintro ⟨⟩
      exact .inl ⟨rfl, rfl⟩
    · rintro (⟨-, rfl⟩ | ⟨a, ⟨⟩, -⟩)
      rfl
  · rw [optional_of_ne_null h, Result.map_eq_ok_iff]
    simp only [toAttribute_eq_ok_iff, h, false_and, false_or, eq_comm (a := o)]

theorem optional_eq_error_iff {reason : UnsupportedValue} :
    v.optional = .error reason ↔ v ≠ .null ∧ v.parts.findSome? refusal? = some reason := by
  by_cases h : v = .null
  · subst h
    exact ⟨nofun, fun h => absurd rfl h.1⟩
  · simp only [optional_of_ne_null h, Result.map_eq_error_iff, toAttribute_eq_error_iff, ne_eq, h,
      not_false_eq_true, true_and]

end Value

namespace Body

inductive Found : String × Term → String × Option AttributeValue → Prop
  | unset {name : String} {t : Term} (evaluated : t.evaluate [] = .ok .null) :
      Found (name, t) (name, none)
  | value {name : String} {t : Term} {v : Value} {a : AttributeValue}
      (evaluated : t.evaluate [] = .ok v) (becomes : v.Becomes a) : Found (name, t) (name, some a)

inductive Faulty : String × Term → StateError → Prop
  | evaluation {name : String} {t : Term} {cause : EvaluationError}
      (failed : t.evaluate [] = .error cause) : Faulty (name, t) (.evaluation name cause)
  | conversion {name : String} {t : Term} {v : Value} {reason : UnsupportedValue}
      (evaluated : t.evaluate [] = .ok v) (other : v ≠ .null)
      (first : v.parts.findSome? Value.refusal? = some reason) :
      Faulty (name, t) (.unsupportedValue name reason)

theorem Found.fst_eq {x : String × Term} {o : String × Option AttributeValue} (h : Found x o) :
    o.1 = x.1 := by
  cases h <;> rfl

theorem map_fst_of_found {xs : List (String × Term)} {found : List (String × Option AttributeValue)}
    (h : List.Forall₂ Found xs found) : found.map Prod.fst = xs.map Prod.fst := by
  induction h with
  | nil => rfl
  | cons hfirst _ ih => rw [List.map_cons, List.map_cons, ih, hfirst.fst_eq]

def evaluateAttribute (x : String × Term) : Except StateError (String × Option AttributeValue) := do
  let v ← (x.2.evaluate []).mapError (.evaluation x.1)
  let value ← v.optional.mapError (.unsupportedValue x.1)
  return (x.1, value)

variable {b : Body} {x : String × Term}

theorem evaluateAttribute_eq_ok_iff {o : String × Option AttributeValue} :
    evaluateAttribute x = .ok o ↔ Found x o := by
  obtain ⟨name, t⟩ := x
  rw [evaluateAttribute, Result.bind_eq_ok_iff]
  constructor
  · rintro ⟨v, hv, h⟩
    obtain ⟨value, hvalue, ⟨⟩⟩ := Result.bind_eq_ok_iff.mp h
    have hv := Result.mapError_eq_ok_iff.mp hv
    obtain ⟨rfl, rfl⟩ | ⟨a, ha, rfl⟩ :=
      Value.optional_eq_ok_iff.mp (Result.mapError_eq_ok_iff.mp hvalue)
    · exact .unset hv
    · exact .value hv ha
  · intro h
    cases h with
    | unset evaluated => exact ⟨.null, Result.mapError_eq_ok_iff.mpr evaluated, rfl⟩
    | @value _ _ v a evaluated becomes =>
      have hvalue := Value.optional_eq_ok_iff.mpr (.inr ⟨a, becomes, rfl⟩)
      refine ⟨v, Result.mapError_eq_ok_iff.mpr evaluated, ?_⟩
      rw [hvalue]
      rfl

theorem evaluateAttribute_eq_error_iff {e : StateError} :
    evaluateAttribute x = .error e ↔ Faulty x e := by
  obtain ⟨name, t⟩ := x
  rw [evaluateAttribute, Result.bind_eq_error_iff]
  constructor
  · rintro (h | ⟨v, hv, h⟩)
    · obtain ⟨cause, hcause, rfl⟩ := Result.mapError_eq_error_iff.mp h
      exact .evaluation hcause
    · obtain h | ⟨value, -, h⟩ := Result.bind_eq_error_iff.mp h
      · obtain ⟨reason, hreason, rfl⟩ := Result.mapError_eq_error_iff.mp h
        obtain ⟨other, first⟩ := Value.optional_eq_error_iff.mp hreason
        exact .conversion (Result.mapError_eq_ok_iff.mp hv) other first
      · cases h
  · intro h
    cases h with
    | evaluation failed => exact .inl (Result.mapError_eq_error_iff.mpr ⟨_, failed, rfl⟩)
    | conversion evaluated other first =>
      have hreason := Value.optional_eq_error_iff.mpr ⟨other, first⟩
      refine .inr ⟨_, Result.mapError_eq_ok_iff.mpr evaluated, ?_⟩
      rw [hreason]
      rfl

theorem toState_eq (b : Body) :
    b.toState = (b.attributes.mapM evaluateAttribute).map fun found =>
      found.foldl ResourceState.fill .empty := by
  rw [← Result.foldlM_map_eq, toState]
  congr 1
  funext s ⟨name, t⟩
  simp only [evaluateAttribute]
  cases t.evaluate [] with
  | error cause => rfl
  | ok v =>
    simp only [Result.mapError_ok, Result.ok_bind]
    split
    case h_1 h => cases h
    case h_2 h =>
      cases h
      rfl
    case h_3 other h =>
      cases h
      rw [Value.optional_of_ne_null other]
      cases v.toAttribute with
      | error reason => rfl
      | ok value => rfl

theorem toState_eq_ok_iff {s : ResourceState} :
    b.toState = .ok s ↔ ∃ found, List.Forall₂ Found b.attributes found ∧
      s = found.foldl ResourceState.fill .empty := by
  rw [toState_eq, Result.map_eq_ok_iff]
  simp only [Result.mapM_eq_ok_iff, evaluateAttribute_eq_ok_iff, eq_comm (a := s)]

theorem toState_eq_error_iff {e : StateError} :
    b.toState = .error e ↔ ∃ before bad behind, b.attributes = before ++ bad :: behind ∧
      (∀ x ∈ before, ∃ o, Found x o) ∧ Faulty bad e := by
  rw [toState_eq, Result.map_eq_error_iff, Result.mapM_eq_error_iff]
  simp only [evaluateAttribute_eq_ok_iff, evaluateAttribute_eq_error_iff]

structure Holds (s : ResourceState) (found : List (String × Option AttributeValue)) : Prop where
  id : s.id = none
  prior : s.prior = .empty
  entries : s.attributes.entries = ResourceState.present found

theorem holds_fill {found : List (String × Option AttributeValue)}
    (hd : (b.attributes.map Prod.fst).Nodup) (h : List.Forall₂ Found b.attributes found) :
    Holds (found.foldl ResourceState.fill .empty) found := by
  rw [← map_fst_of_found h] at hd
  exact ⟨ResourceState.id_foldl_fill, ResourceState.prior_foldl_fill,
    ResourceState.entries_foldl_fill hd fun _ _ => rfl⟩

/-- A value becomes an attribute value unless a null or an object occurs in it, and the first of
these is reported. The state of a body has the attributes that are not null, in the order of their
declaration, or else the error is that of the first attribute that has one. -/
theorem evaluation_keeps_values :
    (∀ v : Value,
      (∀ reason,
        v.toAttribute = .error reason ↔ v.parts.findSome? Value.refusal? = some reason) ∧
      ((∃ reason, v.toAttribute = .error reason) ↔
        ∃ part ∈ v.parts, part = .null ∨ ∃ fields, part = .object fields) ∧
      ∀ a, v.toAttribute = .ok a ↔ v.Becomes a) ∧
    (∀ b : Body,
      (∀ e, b.toState = .error e ↔ ∃ before bad behind, b.attributes = before ++ bad :: behind ∧
        (∀ x ∈ before, ∃ o, Found x o) ∧ Faulty bad e) ∧
      ∀ s, b.toState = .ok s ↔ ∃ found, List.Forall₂ Found b.attributes found ∧
        s = found.foldl ResourceState.fill .empty ∧
        ((b.attributes.map Prod.fst).Nodup → Holds s found)) ∧
    ∀ (text : String) (document b : Body), Document.parse text = some document →
      b.Within document → (b.attributes.map Prod.fst).Nodup := by
  refine ⟨fun v => ⟨fun reason => v.toAttribute_eq_error_iff, Value.exists_error_iff,
    fun a => v.toAttribute_eq_ok_iff⟩, fun b => ⟨fun e => toState_eq_error_iff, fun s => ?_⟩,
    fun text document b h => Document.nodup_of_parse h⟩
  rw [toState_eq_ok_iff]
  refine exists_congr fun found => and_congr_right fun hfound => ?_
  constructor
  · rintro rfl
    exact ⟨rfl, fun hd => holds_fill hd hfound⟩
  · exact fun h => h.1

def limits : Body :=
  [.attribute "icon" .null, .attribute "limits" (.list [.number (.whole 1), .list [.text "b"]])]

def levels : Body := [.attribute "levels" (.list [.text "a", .null])]

theorem evaluation_keeps_limits :
    (∃ document, Document.parse "icon = null\nlimits = [1, [\"b\"]]" = some document ∧
      document.attributes.map Prod.fst = ["icon", "limits"] ∧
      (document.attributes.map Prod.fst).Nodup) ∧
    (Value.list [.number (.whole 1), .list [.string "b"]]).Becomes
      (.list [.integer 1, .list [.string "b"]]) ∧
    (∃ s found, limits.toState = .ok s ∧ List.Forall₂ Found limits.attributes found ∧
      Holds s found ∧
      s.attributes.entries = [("limits", .list [.integer 1, .list [.string "b"]])]) ∧
    levels.toState = .error (.unsupportedValue "levels" .null) := by
  obtain ⟨values, states, documents⟩ := evaluation_keeps_values
  have hnames : (Document.parse "icon = null\nlimits = [1, [\"b\"]]").map
      (fun b => b.attributes.map Prod.fst) = some ["icon", "limits"] := by decide +kernel
  obtain ⟨document, hparse, hnames⟩ := Option.map_eq_some_iff.mp hnames
  have hs : limits.toState =
      .ok (ResourceState.empty.set "limits" (.list [.integer 1, .list [.string "b"]])) := rfl
  obtain ⟨found, hfound, -, hholds⟩ := ((states limits).2 _).mp hs
  refine ⟨⟨document, hparse, hnames, documents _ _ _ hparse .self⟩, ((values _).2.2 _).mp rfl,
    ⟨_, found, hs, hfound, hholds (by decide), rfl⟩, ?_⟩
  refine ((states levels).1 _).mpr ⟨[], _, [], rfl, List.forall_mem_nil _, ?_⟩
  refine .conversion (v := .list [.string "a", .null]) rfl ?_ rfl
  rintro ⟨⟩

end Body

end Monitoring
