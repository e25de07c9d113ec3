import Monitoring.Proofs.Resource.Storing
import Monitoring.Proofs.State.Assignments

namespace Monitoring

namespace AlertingChannel

def changes (c : AlertingChannel) : List (String × Option AttributeValue) :=
  ("full_name", some (.string c.name)) ::
    match c.kind with
    | .email => [("emails", some (.strings c.emails))]
    | .slack =>
      [("webhook_url", c.webhookUrl.map .string), ("icon_url", c.iconUrl.map .string),
       ("channel", c.channel.map .string)]
    | .webHook => [("webhook_urls", some (.strings c.webhookUrls))]

theorem store_eq (c : AlertingChannel) (s : ResourceState) :
    c.store s = (s.setId c.id).assign c.changes := by
  unfold store changes
  cases c.kind <;> rfl

end AlertingChannel

namespace AlertingConfiguration

def changes (c : AlertingConfiguration) : List (String × Option AttributeValue) :=
  [("full_alert_name", some (.string c.alertName)),
   ("integration_ids", some (.strings c.integrationIds)),
   ("event_filter_query", c.eventFilter.query.map .string),
   ("event_filter_event_types",
     stringsIfAny (c.eventFilter.eventTypes.map EventType.harmonized)),
   ("event_filter_rule_ids", stringsIfAny c.eventFilter.ruleIds)]

theorem store_eq (c : AlertingConfiguration) (s : ResourceState) :
    c.store s = (s.setId c.id).assign c.changes := rfl

end AlertingConfiguration

namespace ApplicationConfig

variable {c : ApplicationConfig} {s t : ResourceState}

def changes (c : ApplicationConfig) (e : Expression) : List (String × Option AttributeValue) :=
  [("full_label", some (.string c.label)), ("scope", some (.string c.scope)),
   ("boundary_scope", some (.string c.boundaryScope)),
   ("match_specification", some (.string e.render))]

theorem store_eq_ok_iff :
    c.store s = (t, .ok ()) ↔
      ∃ e, c.matchSpecification.toExpression = .ok e ∧ (s.setId c.id).assign (c.changes e) = t := by
  unfold store
  split
  · rename_i he
    refine ⟨nofun, ?_⟩
    rintro ⟨e, h, -⟩
    rw [he] at h
    cases h
  · rename_i e he
    constructor
    · intro h
      cases h
      exact ⟨e, he, rfl⟩
    · rintro ⟨e', h, rfl⟩
      rw [he] at h
      cases h
      rfl

end ApplicationConfig

namespace ResourceKind

def nameField : ResourceKind → String
  | alertingChannel _ => "name"
  | alertingConfiguration => "alert_name"
  | applicationConfig => "label"

def fullNameField : ResourceKind → String
  | alertingChannel _ => "full_name"
  | alertingConfiguration => "full_alert_name"
  | applicationConfig => "full_label"

def storedFields (k : ResourceKind) : List String := k.schema.tail.map Field.name

theorem names_schema (k : ResourceKind) :
    k.schema.map Field.name = k.nameField :: k.storedFields :=
  forall_of_all (by decide) k

theorem nodup_names_schema (k : ResourceKind) : (k.nameField :: k.storedFields).Nodup := by
  rw [← k.names_schema]
  exact forall_of_all (by decide) k

end ResourceKind

namespace StoredObject

def name : StoredObject → String
  | alertingChannel c => c.name
  | alertingConfiguration c => c.alertName
  | applicationConfig c => c.label

/-- What an object writes besides its id. An application configuration whose specification has no
expression writes nothing. -/
inductive Writes : StoredObject → List (String × Option AttributeValue) → Prop
  | alertingChannel (c : AlertingChannel) : Writes (.alertingChannel c) c.changes
  | alertingConfiguration (c : AlertingConfiguration) :
    Writes (.alertingConfiguration c) c.changes
  | applicationConfig {c : ApplicationConfig} {e : Expression}
    (he : c.matchSpecification.toExpression = .ok e) : Writes (.applicationConfig c) (c.changes e)

variable {o : StoredObject} {changes : List (String × Option AttributeValue)}

theorem Writes.names (h : o.Writes changes) : changes.map Prod.fst = o.kind.storedFields := by
  cases h with
  | alertingChannel c =>
    obtain ⟨id, name, kind, emails, webhookUrl, webhookUrls, iconUrl, channel⟩ := c
    cases kind <;> rfl
  | alertingConfiguration c => rfl
  | applicationConfig he => rfl

theorem Writes.nodup (h : o.Writes changes) : (changes.map Prod.fst).Nodup := by
  rw [h.names]
  exact (List.nodup_cons.mp o.kind.nodup_names_schema).2

theorem Writes.nameField_notMem (h : o.Writes changes) :
    o.kind.nameField ∉ changes.map Prod.fst := by
  rw [h.names]
  exact (List.nodup_cons.mp o.kind.nodup_names_schema).1

theorem Writes.fullName_mem (h : o.Writes changes) :
    (o.kind.fullNameField, some (.string o.name)) ∈ changes := by
  cases h with
  | alertingChannel c => exact List.mem_cons_self
  | alertingConfiguration c => exact List.mem_cons_self
  | applicationConfig he => exact List.mem_cons_self

end StoredObject

namespace ResourceKind

variable {k : ResourceKind} {o : StoredObject} {s t : ResourceState}

theorem store_eq_ok_iff :
    k.store o s = (t, .ok ()) ↔
      o.kind = k ∧ ∃ changes, o.Writes changes ∧ (s.setId o.id).assign changes = t := by
  constructor
  · intro h
    have hk : o.kind = k := by
      refine Decidable.of_not_not fun hne => ?_
      rw [store_of_kind_ne hne] at h
      cases h
    subst hk
    refine ⟨rfl, ?_⟩
    cases o with
    | alertingChannel c =>
      rw [StoredObject.kind, store_alertingChannel] at h
      cases h
      exact ⟨_, .alertingChannel c, (c.store_eq s).symm⟩
    | alertingConfiguration c =>
      cases h
      exact ⟨_, .alertingConfiguration c, (c.store_eq s).symm⟩
    | applicationConfig c =>
      obtain ⟨e, he, ht⟩ := ApplicationConfig.store_eq_ok_iff.mp h
      exact ⟨_, .applicationConfig he, ht⟩
  · rintro ⟨rfl, changes, hw, rfl⟩
    cases hw with
    | alertingChannel c =>
      rw [StoredObject.kind, store_alertingChannel, c.store_eq s]
      rfl
    | alertingConfiguration c => rfl
    | applicationConfig he => exact ApplicationConfig.store_eq_ok_iff.mpr ⟨_, he, rfl⟩

theorem id_of_store (h : k.store o s = (t, .ok ())) : t.id = some o.id := by
  obtain ⟨rfl, changes, hw, rfl⟩ := store_eq_ok_iff.mp h
  exact ResourceState.id_assign _ changes

theorem get?_nameField_of_store (h : k.store o s = (t, .ok ())) :
    t.get? k.nameField = s.get? k.nameField := by
  obtain ⟨rfl, changes, hw, rfl⟩ := store_eq_ok_iff.mp h
  exact ResourceState.get?_assign_of_notMem hw.nameField_notMem

theorem get?_fullNameField_of_store (h : k.store o s = (t, .ok ())) :
    t.get? k.fullNameField = some (.string o.name) := by
  obtain ⟨rfl, changes, hw, rfl⟩ := store_eq_ok_iff.mp h
  exact ResourceState.shows_assign hw.nodup _ hw.fullName_mem

structure Named (k : ResourceKind) (name : String) (s : ResourceState) : Prop where
  given : ∃ given, s.get? k.nameField = some (.string given) ∧
    s.prior.get? k.nameField = some (.string given)
  stored : s.get? k.fullNameField = some (.string name)

theorem Named.fullName {name : String} (h : k.Named name s) (format : NameFormat) :
    format.fullName s k.nameField k.fullNameField = .ok name := by
  obtain ⟨given, hgiven, hprior⟩ := h.given
  exact NameFormat.fullName_of_kept hgiven hprior h.stored

theorem named_commit {given : String} (h : k.store o s = (t, .ok ()))
    (hs : s.get? k.nameField = some (.string given)) : k.Named o.name t.commit := by
  have hname : t.get? k.nameField = some (.string given) :=
    (get?_nameField_of_store h).trans hs
  have hfull := get?_fullNameField_of_store h
  exact ⟨⟨given, hname, hname⟩, hfull⟩

end ResourceKind

end Monitoring
