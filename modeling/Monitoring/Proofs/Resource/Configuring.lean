import Mathlib.Data.List.Nodup
import Monitoring.Proofs.Resource.Conformance

namespace Monitoring

inductive FieldType.Admits : FieldType → AttributeValue → Prop
  | string (text : String) : Admits .string (.string text)
  | stringList (items : List String) : Admits .stringList (.strings items)
  | stringSet (items : List String) : Admits .stringSet (.strings items)

theorem AttributeValue.all_string?_strings (items : List String) :
    ((items.map string).all fun item => item.string?.isSome) = true := by
  refine List.all_eq_true.mpr fun item hitem => ?_
  obtain ⟨text, -, rfl⟩ := List.mem_map.mp hitem
  rfl

namespace Field

variable {f : Field} {s t : ResourceState} {value : AttributeValue}

theorem accepts_iff {type : FieldType} : accepts type value = true ↔ type.Admits value := by
  constructor
  · intro h
    unfold accepts at h
    split at h
    · exact .string _
    · obtain ⟨items, rfl⟩ := AttributeValue.exists_map_string (List.all_eq_true.mp h)
      exact .stringList items
    · obtain ⟨items, rfl⟩ := AttributeValue.exists_map_string (List.all_eq_true.mp h)
      exact .stringSet items
    · cases h
  · rintro (text | items | items)
    · rfl
    · exact AttributeValue.all_string?_strings items
    · exact AttributeValue.all_string?_strings items

theorem checkType_eq_ok_iff : f.checkType value = .ok () ↔ f.type.Admits value := by
  rw [← accepts_iff, checkType]
  split
  · exact iff_of_true rfl ‹_›
  · exact iff_of_false nofun ‹_›

structure Fits (f : Field) (s : ResourceState) : Prop where
  present : f.presence = .required → ∃ value, s.get? f.name = some value
  typed : ∀ value, s.get? f.name = some value → f.type.Admits value

theorem fits_iff_of_get? (h : s.get? f.name = some value) :
    f.Fits s ↔ f.type.Admits value := by
  refine ⟨fun hfits => hfits.typed value h, fun hadmits => ⟨fun _ => ⟨value, h⟩, ?_⟩⟩
  intro other hother
  rw [h] at hother
  cases hother
  exact hadmits

theorem fits_iff_of_absent (h : s.get? f.name = none) : f.Fits s ↔ f.presence ≠ .required := by
  constructor
  · intro hfits hp
    obtain ⟨value, hvalue⟩ := hfits.present hp
    rw [h] at hvalue
    cases hvalue
  · intro hp
    refine ⟨fun hrequired => absurd hrequired hp, fun value hvalue => ?_⟩
    rw [h] at hvalue
    cases hvalue

theorem fits_congr (hget : t.get? f.name = s.get? f.name) : f.Fits t ↔ f.Fits s := by
  cases hs : s.get? f.name with
  | none => rw [fits_iff_of_absent hs, fits_iff_of_absent (hget.trans hs)]
  | some value => rw [fits_iff_of_get? hs, fits_iff_of_get? (hget.trans hs)]

def defaultEntry (s : ResourceState) (f : Field) : Option (String × AttributeValue) :=
  if f.presence = .optional ∧ s.get? f.name = none then
    f.default.map fun default => (f.name, .string default)
  else none

theorem defaultEntry_eq_some_iff {entry : String × AttributeValue} :
    f.defaultEntry s = some entry ↔ (f.presence = .optional ∧ s.get? f.name = none) ∧
      ∃ default, f.default = some default ∧ (f.name, .string default) = entry := by
  unfold defaultEntry
  split
  · rename_i h
    rw [Option.map_eq_some_iff]
    exact (and_iff_right h).symm
  · rename_i h
    exact iff_of_false nofun fun ⟨habsent, _⟩ => h habsent

theorem defaultEntry_congr (hget : t.get? f.name = s.get? f.name) :
    f.defaultEntry t = f.defaultEntry s := by
  rw [defaultEntry, defaultEntry, hget]

theorem defaultEntry_of_get? (h : s.get? f.name = some value) : f.defaultEntry s = none := by
  refine if_neg fun habsent => ?_
  rw [h] at habsent
  cases habsent.2

theorem defaultEntry_of_default (h : f.default = none) : f.defaultEntry s = none := by
  rw [defaultEntry, h, Option.map_none, ite_self]

end Field

namespace Schema

variable {schema : Schema} {s t : ResourceState} {name : String}

structure Consistent (schema : Schema) : Prop where
  distinct : (schema.map Field.name).Nodup
  optional : ∀ f ∈ schema, f.default ≠ none → f.presence = .optional
  string : ∀ f ∈ schema, f.default ≠ none → f.type = .string

theorem Consistent.tail {f : Field} {rest : Schema} (h : Consistent (f :: rest)) :
    Consistent rest :=
  ⟨(List.nodup_cons.mp h.distinct).2, fun g hg => h.optional g (List.mem_cons_of_mem f hg),
    fun g hg => h.string g (List.mem_cons_of_mem f hg)⟩

theorem Consistent.eq_of_name_eq (h : schema.Consistent) {f g : Field} (hf : f ∈ schema)
    (hg : g ∈ schema) (hname : f.name = g.name) : f = g :=
  List.inj_on_of_nodup_map h.distinct hf hg hname

def defaultsFor (schema : Schema) (s : ResourceState) : List (String × AttributeValue) :=
  schema.filterMap (Field.defaultEntry s)

structure Completes (schema : Schema) (s t : ResourceState) : Prop where
  id : t.id = s.id
  prior : t.prior = s.prior
  entries : t.attributes.entries = s.attributes.entries ++ schema.defaultsFor s

def Fits (schema : Schema) (s : ResourceState) : Prop := ∀ f ∈ schema, f.Fits s

structure Allows (schema : Schema) (s : ResourceState) : Prop where
  known : ∀ name ∈ s.attributes.names, ∃ f ∈ schema, f.name = name ∧ f.presence ≠ .computed
  fits : schema.Fits s

theorem checkName_eq_ok_iff (hc : schema.Consistent) :
    schema.checkName name = .ok () ↔ ∃ f ∈ schema, f.name = name ∧ f.presence ≠ .computed := by
  refine ⟨exists_of_checkName, ?_⟩
  rintro ⟨f, hf, rfl, hpresence⟩
  have hfind : schema.find? (fun g => g.name = f.name) = some f := by
    cases hfound : schema.find? fun g => g.name = f.name with
    | none => exact absurd (decide_eq_true rfl) (List.find?_eq_none.mp hfound f hf)
    | some g =>
      have hname : g.name = f.name := by simpa using List.find?_some hfound
      exact congrArg some (hc.eq_of_name_eq (List.mem_of_find?_eq_some hfound) hf hname)
  rw [checkName, hfind]
  exact if_neg hpresence

theorem completes_nil_iff : Completes [] s t ↔ s = t := by
  constructor
  · intro h
    obtain ⟨id, attributes, prior⟩ := t
    obtain ⟨rfl, rfl, hentries⟩ := h
    rw [defaultsFor, List.filterMap_nil, List.append_nil] at hentries
    have hattributes : attributes = s.attributes := Attributes.eq_of_entries hentries
    rw [hattributes]
  · rintro rfl
    exact ⟨rfl, rfl, (List.append_nil _).symm⟩

theorem completes_cons_of_none {f : Field} (h : f.defaultEntry s = none) :
    Completes (f :: schema) s t ↔ schema.Completes s t := by
  have hdefaults : defaultsFor (f :: schema) s = schema.defaultsFor s :=
    List.filterMap_cons_none h
  exact ⟨fun ⟨hid, hprior, he⟩ => ⟨hid, hprior, hdefaults ▸ he⟩,
    fun ⟨hid, hprior, he⟩ => ⟨hid, hprior, hdefaults ▸ he⟩⟩

theorem Consistent.get?_set_of_mem {f g : Field} {value : AttributeValue}
    (hc : Consistent (f :: schema)) (hg : g ∈ schema) :
    (s.set f.name value).get? g.name = s.get? g.name := by
  have hne : g.name ≠ f.name := fun h =>
    (List.nodup_cons.mp hc.distinct).1 (h ▸ List.mem_map_of_mem hg)
  rw [ResourceState.get?_set, if_neg hne]

theorem completes_cons_of_default {f : Field} {default : String} (hc : Consistent (f :: schema))
    (hf : s.get? f.name = none) (hdefault : f.default = some default) :
    Completes (f :: schema) s t ↔ schema.Completes (s.set f.name (.string default)) t := by
  have hpresence : f.presence = .optional :=
    hc.optional f List.mem_cons_self (by rw [hdefault]; exact nofun)
  have hentry : f.defaultEntry s = some (f.name, .string default) :=
    Field.defaultEntry_eq_some_iff.mpr ⟨⟨hpresence, hf⟩, default, hdefault, rfl⟩
  have hrest : schema.defaultsFor (s.set f.name (.string default)) = schema.defaultsFor s :=
    List.filterMap_congr fun g hg => Field.defaultEntry_congr (hc.get?_set_of_mem hg)
  have hentries : s.attributes.entries ++ defaultsFor (f :: schema) s =
      (s.set f.name (.string default)).attributes.entries ++
        schema.defaultsFor (s.set f.name (.string default)) := by
    rw [hrest, ResourceState.entries_set_of_absent hf, List.append_assoc, defaultsFor,
      List.filterMap_cons_some hentry]
    rfl
  exact ⟨fun ⟨hid, hprior, he⟩ => ⟨hid, hprior, he.trans hentries⟩,
    fun ⟨hid, hprior, he⟩ => ⟨hid, hprior, he.trans hentries.symm⟩⟩

theorem conformFields_eq_ok_iff (hc : schema.Consistent) :
    conformFields s schema = (t, .ok ()) ↔ schema.Fits s ∧ schema.Completes s t := by
  induction schema generalizing s with
  | nil =>
    rw [completes_nil_iff, conformFields, Prod.mk.injEq]
    exact ⟨fun h => ⟨nofun, h.1⟩, fun h => ⟨h.2, rfl⟩⟩
  | cons f rest ih =>
    rw [Fits, List.forall_mem_cons]
    unfold conformFields
    cases hf : s.get? f.name with
    | some value =>
      rw [completes_cons_of_none (Field.defaultEntry_of_get? hf), Field.fits_iff_of_get? hf,
        ← Field.checkType_eq_ok_iff]
      dsimp only
      cases f.checkType value with
      | error e => exact iff_of_false nofun fun ⟨⟨h, _⟩, _⟩ => nomatch h
      | ok _ =>
        rw [eq_self, true_and]
        exact ih hc.tail
    | none =>
      rw [Field.fits_iff_of_absent hf]
      dsimp only
      by_cases hpresence : f.presence = .required
      · rw [if_pos hpresence]
        exact iff_of_false nofun fun h => h.1.1 hpresence
      · rw [if_neg hpresence, and_iff_right hpresence]
        cases hdefault : f.default with
        | none =>
          rw [completes_cons_of_none (Field.defaultEntry_of_default hdefault)]
          exact ih hc.tail
        | some default =>
          have hrest : Fits rest (s.set f.name (.string default)) ↔ Fits rest s :=
            forall₂_congr fun g hg => Field.fits_congr (hc.get?_set_of_mem hg)
          rw [completes_cons_of_default hc hf hdefault, ih hc.tail, hrest]
          rfl

theorem forM_checkName_eq_ok_iff (hc : schema.Consistent) {names : List String} :
    names.forM schema.checkName = .ok () ↔
      ∀ name ∈ names, ∃ f ∈ schema, f.name = name ∧ f.presence ≠ .computed := by
  rw [Result.forM_eq_ok_iff]
  exact forall₂_congr fun name _ => checkName_eq_ok_iff hc

theorem conform_eq_ok_iff (hc : schema.Consistent) :
    schema.conform s = (t, .ok ()) ↔ schema.Allows s ∧ schema.Completes s t := by
  unfold conform
  split
  · rename_i hnames
    refine iff_of_false nofun fun h => ?_
    rw [(forM_checkName_eq_ok_iff hc).mpr h.1.known] at hnames
    cases hnames
  · rename_i hnames
    have hknown := (forM_checkName_eq_ok_iff hc).mp hnames
    rw [conformFields_eq_ok_iff hc]
    exact ⟨fun h => ⟨⟨hknown, h.1⟩, h.2⟩, fun h => ⟨h.1.fits, h.2⟩⟩

theorem mem_defaultsFor {entry : String × AttributeValue} (h : entry ∈ schema.defaultsFor s) :
    ∃ f ∈ schema, f.presence = .optional ∧ s.get? f.name = none ∧
      ∃ default, f.default = some default ∧ (f.name, .string default) = entry := by
  obtain ⟨f, hf, hentry⟩ := List.mem_filterMap.mp h
  obtain ⟨⟨hpresence, habsent⟩, hdefault⟩ := Field.defaultEntry_eq_some_iff.mp hentry
  exact ⟨f, hf, hpresence, habsent, hdefault⟩

theorem map_fst_defaultsFor_sublist (schema : Schema) (s : ResourceState) :
    ((schema.defaultsFor s).map Prod.fst).Sublist (schema.map Field.name) := by
  induction schema with
  | nil => exact .slnil
  | cons f rest ih =>
    rw [List.map_cons, defaultsFor]
    cases hentry : f.defaultEntry s with
    | none =>
      rw [List.filterMap_cons_none hentry]
      exact .cons f.name ih
    | some entry =>
      obtain ⟨-, default, -, rfl⟩ := Field.defaultEntry_eq_some_iff.mp hentry
      rw [List.filterMap_cons_some hentry, List.map_cons]
      exact .cons_cons f.name ih

theorem exists_completes (hc : schema.Consistent) (s : ResourceState) :
    ∃ t, schema.Completes s t := by
  have hnodup : ((s.attributes.entries ++ schema.defaultsFor s).map Prod.fst).Nodup := by
    rw [List.map_append]
    refine List.nodup_append.mpr
      ⟨s.attributes.distinct, hc.distinct.sublist (map_fst_defaultsFor_sublist schema s), ?_⟩
    rintro name hname other hother rfl
    obtain ⟨entry, hentry, rfl⟩ := List.mem_map.mp hother
    obtain ⟨f, -, -, habsent, default, -, rfl⟩ := mem_defaultsFor hentry
    obtain ⟨value, hvalue⟩ := Attributes.exists_get?_of_mem_names hname
    rw [ResourceState.get?, hvalue] at habsent
    cases habsent
  exact ⟨{ s with attributes := ⟨_, hnodup⟩ }, rfl, rfl, rfl⟩

namespace Completes

theorem get? (h : schema.Completes s t) (name : String) :
    t.get? name = (s.get? name).or ((schema.defaultsFor s).lookup name) := by
  rw [ResourceState.get?, Attributes.get?, h.entries, List.lookup_append]
  rfl

theorem get?_of_get? {value : AttributeValue} (h : schema.Completes s t)
    (hget : s.get? name = some value) : t.get? name = some value := by
  rw [h.get?, hget, Option.some_or]

theorem get?_of_default {f : Field} {default : String} (h : schema.Completes s t)
    (hf : f ∈ schema) (hpresence : f.presence = .optional) (hdefault : f.default = some default) :
    ∃ value, t.get? f.name = some value := by
  cases hget : s.get? f.name with
  | some value => exact ⟨value, h.get?_of_get? hget⟩
  | none =>
    have hentry : f.defaultEntry s = some (f.name, .string default) :=
      Field.defaultEntry_eq_some_iff.mpr ⟨⟨hpresence, hget⟩, default, hdefault, rfl⟩
    apply Attributes.exists_get?_of_mem_names
    rw [Attributes.names, h.entries]
    have hmem := List.mem_filterMap.mpr ⟨f, hf, hentry⟩
    exact List.mem_map_of_mem (List.mem_append_right _ hmem)

theorem self (h : schema.Completes s t) : schema.Completes t t := by
  have hnone : schema.defaultsFor t = [] := by
    refine List.filterMap_eq_nil_iff.mpr fun f hf => ?_
    refine Option.eq_none_iff_forall_ne_some.mpr fun entry hentry => ?_
    obtain ⟨⟨hpresence, habsent⟩, default, hdefault, -⟩ :=
      Field.defaultEntry_eq_some_iff.mp hentry
    obtain ⟨value, hvalue⟩ := h.get?_of_default hf hpresence hdefault
    rw [habsent] at hvalue
    cases hvalue
  exact ⟨rfl, rfl, by rw [hnone, List.append_nil]⟩

theorem fits (hc : schema.Consistent) (h : schema.Completes s t) (hs : schema.Fits s) :
    schema.Fits t := by
  intro f hf
  refine ⟨fun hpresence => ?_, fun value hvalue => ?_⟩
  · obtain ⟨value, hvalue⟩ := (hs f hf).present hpresence
    exact ⟨value, h.get?_of_get? hvalue⟩
  · rw [h.get?, Option.or_eq_some_iff] at hvalue
    obtain hvalue | ⟨-, hvalue⟩ := hvalue
    · exact (hs f hf).typed value hvalue
    · have hmem := Lookup.mem_of_lookup_eq_some hvalue
      obtain ⟨g, hg, -, -, default, hdefault, hentry⟩ := mem_defaultsFor hmem
      obtain ⟨hname, rfl⟩ := Prod.mk.inj hentry
      obtain rfl := hc.eq_of_name_eq hg hf hname
      rw [hc.string g hg (by rw [hdefault]; exact nofun)]
      exact .string default

theorem allows (hc : schema.Consistent) (h : schema.Completes s t) (hs : schema.Allows s) :
    schema.Allows t := by
  refine ⟨fun name hname => ?_, h.fits hc hs.fits⟩
  rw [Attributes.names, h.entries, List.map_append, List.mem_append] at hname
  obtain hname | hname := hname
  · exact hs.known name hname
  · obtain ⟨entry, hentry, rfl⟩ := List.mem_map.mp hname
    obtain ⟨f, hf, hpresence, -, default, -, rfl⟩ := mem_defaultsFor hentry
    exact ⟨f, hf, rfl, by rw [hpresence]; exact nofun⟩

end Completes

theorem exists_conform_iff (hc : schema.Consistent) :
    (∃ t, schema.conform s = (t, .ok ())) ↔ schema.Allows s := by
  constructor
  · rintro ⟨t, h⟩
    exact ((conform_eq_ok_iff hc).mp h).1
  · intro h
    obtain ⟨t, ht⟩ := exists_completes hc s
    exact ⟨t, (conform_eq_ok_iff hc).mpr ⟨h, ht⟩⟩

theorem conform_conformed (hc : schema.Consistent) (h : schema.conform s = (t, .ok ())) :
    schema.conform t = (t, .ok ()) := by
  obtain ⟨hallows, hcompletes⟩ := (conform_eq_ok_iff hc).mp h
  exact (conform_eq_ok_iff hc).mpr ⟨hcompletes.allows hc hallows, hcompletes.self⟩

end Schema

end Monitoring
