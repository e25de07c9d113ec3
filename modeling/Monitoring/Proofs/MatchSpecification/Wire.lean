import Monitoring.MatchSpecification.Basic
import Monitoring.Proofs.Json.Narrowing

namespace Monitoring

namespace TagFilter

def known : Json.Known := .flat ["type", "name", "operator", "entity", "value"]

theorem ofJson?_of_widens {f : TagFilter} {j : Json} (h : j.Widens known f.toJson) :
    ofJson? j.canonical = some f := by
  have hname : j.canonical.field? "name" = some (.string f.name) := by
    rw [h.field?_flat (by simp)]
    simp [toJson, List.lookup_append]
  have hoperator : j.canonical.field? "operator" = some (.string f.operator) := by
    rw [h.field?_flat (by simp)]
    simp [toJson, List.lookup_append]
  have hentity : j.canonical.field? "entity" = f.entity.map .string := by
    rw [h.field?_flat (by simp)]
    cases h : f.entity <;> simp [toJson, List.lookup_append, h]
  have hvalue : j.canonical.field? "value" = f.value.map .string := by
    rw [h.field?_flat (by simp)]
    cases h : f.value <;> simp [toJson, List.lookup_append, h]
  obtain ⟨fields, rfl⟩ := h.exists_object
  rw [ofJson?, Json.named?_canonical_object]
  simp only [Option.bind_eq_bind, Option.bind_some, Json.required_of_field? hname,
    Json.required_of_field? hoperator, Json.optional_of_field? hentity,
    Json.optional_of_field? hvalue]
  rfl

end TagFilter

namespace MatchSpecification

open Json (maxNesting)

def depth : MatchSpecification → Nat
  | tagFilter _ => 1
  | logical l _ r => max l.depth r.depth + 1

theorem canonical_toJson_logical (l r : MatchSpecification) (op : LogicalOperator) :
    (logical l op r).toJson.canonical =
      .object [("conjunction", .string op.keyword), ("left", l.toJson.canonical),
        ("right", r.toJson.canonical), ("type", .string "BINARY_OP")] := rfl

def ReadsForms (form? : Json → Option String) : Prop := ∀ name, form? (.string name) = some name

theorem readsForms_string? : ReadsForms Json.string? := fun _ => rfl

theorem readsForms_partForm? : ReadsForms partForm? := fun _ => rfl

theorem decode?_toJson (m : MatchSpecification) {form? : Json → Option String}
    (hf : ReadsForms form?) : decode? form? m.toJson = some m := by
  induction m generalizing form? with
  | tagFilter f =>
    have hform : formOf? form? [("type", .string "TAG_FILTER")] = some "TAG_FILTER" := hf _
    obtain ⟨name, operator, entity, value⟩ := f
    cases entity <;> cases value <;> exact congrArg (Option.bind · _) hform
  | logical l op r ihl ihr =>
    have hform : formOf? form? [("type", .string "BINARY_OP")] = some "BINARY_OP" := hf _
    have hleft := ihl readsForms_partForm?
    have hright := ihr readsForms_partForm?
    rw [toJson, decode?]
    simp only [partsOfFields, hleft, hright]
    cases op <;> exact congrArg (Option.bind · _) hform

theorem ofJson?_toJson (m : MatchSpecification) : ofJson? m.toJson = some m :=
  m.decode?_toJson readsForms_string?

def known : MatchSpecification → Json.Known
  | tagFilter _ => TagFilter.known
  | logical l _ r =>
    .record [("type", .value), ("left", l.known), ("conjunction", .value), ("right", r.known)]

theorem formOf?_of_field? {form? : Json → Option String} (hf : ReadsForms form?)
    {fields : List (String × Json)} {form : String}
    (h : (Json.object fields).canonical.field? "type" = some (.string form)) :
    formOf? form? (Json.canonicalFields [] fields) = some form := by
  rw [formOf?, Json.filter_of_field? h]
  exact hf form

theorem lookup_partsOfFields (fields : List (String × Json)) (name : String) :
    (partsOfFields fields).lookup name = (fields.lookup name).map (decode? partForm?) := by
  induction fields with
  | nil => rfl
  | cons field rest ih =>
    obtain ⟨key, j⟩ := field
    rw [partsOfFields, Lookup.lookup_cons_eq_ite, Lookup.lookup_cons_eq_ite, ih]
    by_cases h : name = key <;> simp [h]

theorem lookup_partsOfFields_of_field? {fields : List (String × Json)} {name : String}
    {found : Json} {m : MatchSpecification}
    (h : (Json.object fields).canonical.field? name = some found)
    (hm : decode? partForm? found = some m) :
    (partsOfFields (Json.canonicalFields [] fields)).lookup name = some (some m) := by
  have hl : (Json.canonicalFields [] fields).lookup name = some found := h
  rw [lookup_partsOfFields, hl, Option.map_some, hm]

theorem conjunction?_keyword (op : LogicalOperator) :
    conjunction? (.string op.keyword) = some op := by
  cases op <;> rfl

theorem decode?_of_widens {m : MatchSpecification} {j : Json} {form? : Json → Option String}
    (hf : ReadsForms form?) (h : j.Widens m.known m.toJson) :
    decode? form? j.canonical = some m := by
  induction m generalizing j form? with
  | tagFilter f =>
    have htype : j.canonical.field? "type" = some (.string "TAG_FILTER") := by
      rw [h.field?_flat (by simp)]
      simp [toJson, TagFilter.toJson, List.lookup_append]
    have hfilter : TagFilter.ofJson? j.canonical = some f := TagFilter.ofJson?_of_widens h
    obtain ⟨fields, rfl⟩ := h.exists_object
    rw [Json.canonical] at hfilter ⊢
    rw [decode?, formOf?_of_field? hf htype]
    simp only [Option.bind_eq_bind, Option.bind_some, assemble?, if_true, hfilter, Option.map_some]
  | logical l op r ihl ihr =>
    have htype : j.canonical.field? "type" = some (.string "BINARY_OP") := h.field?_value rfl
    have hconjunction : j.canonical.field? "conjunction" = some (.string op.keyword) :=
      h.field?_value rfl
    have hleft : (logical l op r).toJson.canonical.field? "left" = some l.toJson.canonical := rfl
    have hright : (logical l op r).toJson.canonical.field? "right" = some r.toJson.canonical := rfl
    obtain ⟨fields, rfl⟩ := h.exists_object
    obtain ⟨left, hwidensLeft, hleft⟩ := h.exists_field rfl rfl hleft
    obtain ⟨right, hwidensRight, hright⟩ := h.exists_field rfl rfl hright
    have hnamed : (Json.object fields).canonical.named? ["left", "conjunction", "right"] =
        some (Json.canonicalFields [] fields) := Json.named?_canonical_object _
    rw [Json.canonical] at hnamed ⊢
    rw [decode?, formOf?_of_field? hf htype]
    simp only [Option.bind_eq_bind, Option.bind_some, assemble?, hnamed,
      lookup_partsOfFields_of_field? hleft (ihl readsForms_partForm? hwidensLeft),
      lookup_partsOfFields_of_field? hright (ihr readsForms_partForm? hwidensRight),
      Option.join_some,
      Json.required_of_field? hconjunction, conjunction?_keyword]
    rfl

theorem ofJson?_of_widens {m : MatchSpecification} {j : Json} (h : j.Widens m.known m.toJson) :
    ofJson? j.canonical = some m := decode?_of_widens readsForms_string? h

theorem narrow_toJson (m : MatchSpecification) : m.toJson.narrow m.known = m.toJson := by
  induction m with
  | tagFilter f =>
    obtain ⟨name, operator, entity, value⟩ := f
    cases entity <;> cases value <;> rfl
  | logical l op r ihl ihr =>
    refine congrArg Json.object (Json.narrowFields_eq_self fun field h => ?_)
    simp only [List.mem_cons, List.not_mem_nil, or_false] at h
    obtain rfl | rfl | rfl | rfl := h
    · exact ⟨.value, rfl, rfl⟩
    · exact ⟨l.known, rfl, ihl⟩
    · exact ⟨.value, rfl, rfl⟩
    · exact ⟨r.known, rfl, ihr⟩

theorem ofJson?_canonical (m : MatchSpecification) : ofJson? m.toJson.canonical = some m :=
  ofJson?_of_widens (.of_narrow_eq m.narrow_toJson)

theorem depth_toJson (m : MatchSpecification) : m.toJson.depth = m.depth := by
  induction m with
  | tagFilter f =>
    obtain ⟨name, operator, entity, value⟩ := f
    cases entity <;> cases value <;> rfl
  | logical l op r ihl ihr =>
    simp only [toJson, Json.depth, Json.depthOfFields, ihl, ihr, depth, Nat.zero_max, Nat.max_zero]

theorem depth_canonical (m : MatchSpecification) : m.toJson.canonical.depth = m.depth := by
  induction m with
  | tagFilter f =>
    obtain ⟨name, operator, entity, value⟩ := f
    cases entity <;> cases value <;> rfl
  | logical l op r ihl ihr =>
    simp only [canonical_toJson_logical, Json.depth, Json.depthOfFields, ihl, ihr, depth,
      Nat.zero_max, Nat.max_zero]

theorem legible_toJson (m : MatchSpecification) : m.toJson.Legible := by
  induction m with
  | tagFilter f =>
    obtain ⟨name, operator, entity, value⟩ := f
    cases entity <;> cases value <;> simp [toJson, TagFilter.toJson, Json.optionalField,
      Json.Legible, Json.LegibleFields]
  | logical l op r ihl ihr => exact ⟨trivial, ihl, trivial, ihr, trivial⟩

theorem parse?_text_append (m : MatchSpecification) (y : Json.Layout) (tail : String)
    (ht : ∀ c ∈ tail.toList, Json.isSpace c = true) :
    parse? (m.toJson.text y ++ tail) = if m.depth ≤ maxNesting then some m else none := by
  rw [parse?, Json.parse_text_append m.legible_toJson y tail ht, depth_toJson]
  by_cases h : m.depth ≤ maxNesting
  · rw [if_pos h, if_pos h, Option.bind_some, ofJson?_toJson]
  · rw [if_neg h, if_neg h, Option.bind_none]

end MatchSpecification

end Monitoring
