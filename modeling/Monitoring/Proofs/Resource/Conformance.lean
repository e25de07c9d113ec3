import Monitoring.Proofs.Resource.Storing
import Monitoring.Proofs.State.Assignments

namespace Monitoring

theorem AttributeValue.exists_map_string {items : List AttributeValue}
    (h : ∀ item ∈ items, item.string?.isSome = true) :
    ∃ names : List String, items = names.map string := by
  induction items with
  | nil => exact ⟨[], rfl⟩
  | cons item rest ih =>
    rw [List.forall_mem_cons] at h
    obtain ⟨names, rfl⟩ := ih h.2
    cases item with
    | string name => exact ⟨name :: names, rfl⟩
    | boolean _ => cases h.1
    | integer _ => cases h.1
    | decimal _ => cases h.1
    | list _ => cases h.1

theorem Field.isTextual_of_checkType {f : Field} {value : AttributeValue}
    (h : f.checkType value = .ok ()) : value.IsTextual := by
  have haccepts : Field.accepts f.type value = true := by
    unfold checkType at h
    split at h
    · assumption
    · cases h
  unfold accepts at haccepts
  split at haccepts
  · exact .string _
  · obtain ⟨names, rfl⟩ := AttributeValue.exists_map_string (List.all_eq_true.mp haccepts)
    exact .strings names
  · obtain ⟨names, rfl⟩ := AttributeValue.exists_map_string (List.all_eq_true.mp haccepts)
    exact .strings names
  · cases haccepts

namespace Schema

variable {s conformed : ResourceState} {schema : Schema}

theorem exists_of_checkName {name : String} (h : schema.checkName name = .ok ()) :
    ∃ f ∈ schema, f.name = name ∧ f.presence ≠ .computed := by
  unfold checkName at h
  split at h
  · cases h
  · rename_i f hf
    split at h
    · cases h
    · rename_i hpresence
      exact ⟨f, List.mem_of_find?_eq_some hf, by simpa using List.find?_some hf, hpresence⟩

theorem exists_field_of_conform {name : String} {value : AttributeValue}
    (h : schema.conform s = (conformed, .ok ())) (hget : s.get? name = some value) :
    ∃ f ∈ schema, f.name = name ∧ f.presence ≠ .computed := by
  unfold conform at h
  split at h
  · cases h
  · rename_i hnames
    have hmem := Attributes.mem_names_of_get? hget
    exact exists_of_checkName (Result.forM_eq_ok_iff.mp hnames name hmem)

theorem exists_assign_of_conformFields (h : conformFields s schema = (conformed, .ok ())) :
    ∃ defaults, s.assign defaults = conformed ∧
      ∀ name ∈ defaults.map Prod.fst, ∃ f ∈ schema, f.name = name ∧ f.default ≠ none := by
  induction schema generalizing s with
  | nil =>
    cases h
    exact ⟨[], rfl, nofun⟩
  | cons f rest ih =>
    have hlater : ∀ {t : ResourceState}, conformFields t rest = (conformed, .ok ()) →
        ∃ defaults, t.assign defaults = conformed ∧ ∀ name ∈ defaults.map Prod.fst,
          ∃ f' ∈ f :: rest, f'.name = name ∧ f'.default ≠ none := by
      intro t ht
      obtain ⟨defaults, hassign, hdefaults⟩ := ih ht
      refine ⟨defaults, hassign, fun name hname => ?_⟩
      obtain ⟨f', hf', h⟩ := hdefaults name hname
      exact ⟨f', List.mem_cons_of_mem f hf', h⟩
    unfold conformFields at h
    split at h
    · split at h
      · cases h
      · exact hlater h
    · split at h
      · cases h
      · split at h
        · rename_i default hdefault
          obtain ⟨defaults, hassign, hdefaults⟩ := hlater h
          refine ⟨(f.name, some (.string default)) :: defaults, hassign, ?_⟩
          refine List.forall_mem_cons.mpr ⟨⟨f, List.mem_cons_self, rfl, ?_⟩, hdefaults⟩
          rw [hdefault]
          exact nofun
        · exact hlater h

theorem exists_assign_of_conform (h : schema.conform s = (conformed, .ok ())) :
    ∃ defaults, s.assign defaults = conformed ∧
      ∀ name ∈ defaults.map Prod.fst, ∃ f ∈ schema, f.name = name ∧ f.default ≠ none := by
  unfold conform at h
  split at h
  · cases h
  · exact exists_assign_of_conformFields h

theorem isTextual_of_conformFields (h : conformFields s schema = (conformed, .ok ()))
    (hs : ∀ name value, s.get? name = some value → (∀ f ∈ schema, f.name ≠ name) →
      value.IsTextual) : conformed.IsTextual := by
  induction schema generalizing s with
  | nil =>
    cases h
    exact fun name value hget => hs name value hget nofun
  | cons f rest ih =>
    unfold conformFields at h
    split at h
    · rename_i configured hf
      split at h
      · cases h
      · rename_i hcheck
        refine ih h fun name value hget hrest => ?_
        by_cases hname : f.name = name
        · subst hname
          rw [hf] at hget
          cases hget
          exact Field.isTextual_of_checkType hcheck
        · exact hs name value hget (List.forall_mem_cons.mpr ⟨hname, hrest⟩)
    · rename_i hf
      split at h
      · cases h
      · split at h
        · rename_i default hdefault
          refine ih h fun name value hget hrest => ?_
          rw [ResourceState.get?_set] at hget
          by_cases hname : name = f.name
          · rw [if_pos hname] at hget
            cases hget
            exact .string default
          · rw [if_neg hname] at hget
            exact hs name value hget (List.forall_mem_cons.mpr ⟨Ne.symm hname, hrest⟩)
        · refine ih h fun name value hget hrest => ?_
          have hname : f.name ≠ name := by
            rintro rfl
            rw [hf] at hget
            cases hget
          exact hs name value hget (List.forall_mem_cons.mpr ⟨hname, hrest⟩)

theorem isTextual_of_conform (h : schema.conform s = (conformed, .ok ())) :
    conformed.IsTextual := by
  unfold conform at h
  split at h
  · cases h
  · rename_i hnames
    refine isTextual_of_conformFields h fun name value hget hrest => ?_
    have hmem := Attributes.mem_names_of_get? hget
    obtain ⟨f, hf, hname, -⟩ := exists_of_checkName (Result.forM_eq_ok_iff.mp hnames name hmem)
    exact absurd hname (hrest f hf)

end Schema

section Store

variable {s stored : ResourceState}

open AttributeValue (IsTextual)

theorem isTextual_map_string (o : Option String) :
    ∀ value, o.map .string = some value → IsTextual value := by
  intro value h
  obtain ⟨text, -, rfl⟩ := Option.map_eq_some_iff.mp h
  exact .string text

theorem isTextual_stringsIfAny (items : List String) :
    ∀ value, AlertingConfiguration.stringsIfAny items = some value → IsTextual value := by
  intro value h
  cases items with
  | nil => cases h
  | cons item rest =>
    cases h
    exact .strings (item :: rest)

theorem AlertingChannel.isTextual_store (c : AlertingChannel) (h : s.IsTextual) :
    (c.store s).IsTextual := by
  have hnamed := (h.setId c.id).set "full_name" (.string c.name)
  unfold store
  split
  · exact hnamed.set "emails" (.strings c.emails)
  · have hurl := hnamed.setOptional "webhook_url" (isTextual_map_string c.webhookUrl)
    have hicon := hurl.setOptional "icon_url" (isTextual_map_string c.iconUrl)
    exact hicon.setOptional "channel" (isTextual_map_string c.channel)
  · exact hnamed.set "webhook_urls" (.strings c.webhookUrls)

theorem AlertingConfiguration.isTextual_store (c : AlertingConfiguration) (h : s.IsTextual) :
    (c.store s).IsTextual := by
  have hnamed := (h.setId c.id).set "full_alert_name" (.string c.alertName)
  have hids := hnamed.set "integration_ids" (.strings c.integrationIds)
  have hquery := hids.setOptional "event_filter_query" (isTextual_map_string c.eventFilter.query)
  have htypes := hquery.setOptional "event_filter_event_types"
    (isTextual_stringsIfAny (c.eventFilter.eventTypes.map EventType.harmonized))
  exact htypes.setOptional "event_filter_rule_ids" (isTextual_stringsIfAny c.eventFilter.ruleIds)

theorem ApplicationConfig.isTextual_store (c : ApplicationConfig) (h : s.IsTextual) :
    (c.store s).1.IsTextual := by
  unfold store
  split
  · exact h
  · have hnamed := (h.setId c.id).set "full_label" (.string c.label)
    have hscope := hnamed.set "scope" (.string c.scope)
    have hboundary := hscope.set "boundary_scope" (.string c.boundaryScope)
    exact hboundary.set "match_specification" (.string _)

namespace ResourceKind

variable {k : ResourceKind} {o : StoredObject}

theorem isTextual_store (h : s.IsTextual) : (k.store o s).1.IsTextual := by
  by_cases hk : o.kind = k
  · subst hk
    cases o with
    | alertingChannel c =>
      rw [StoredObject.kind, store_alertingChannel]
      exact c.isTextual_store h
    | alertingConfiguration c => exact c.isTextual_store h
    | applicationConfig c => exact c.isTextual_store h
  · rw [store_of_kind_ne hk]
    exact h

def Conforms (k : ResourceKind) (s : ResourceState) : Prop :=
  ∃ configured conformed, k.schema.conform configured = (conformed, .ok ()) ∧
    s.attributes = conformed.attributes

theorem Conforms.isTextual (h : k.Conforms s) : s.IsTextual := by
  obtain ⟨configured, conformed, hconform, hs⟩ := h
  intro name value hget
  rw [ResourceState.get?, hs] at hget
  exact Schema.isTextual_of_conform hconform name value hget

end ResourceKind

end Store

end Monitoring
