import Monitoring.Proofs.Expression.RoundTrip
import Monitoring.Proofs.MatchSpecification.Grouping
import Monitoring.Proofs.Remote.Validity
import Monitoring.Proofs.Resource.Changes
import Monitoring.Proofs.Resource.Sending

namespace Monitoring

variable {s t : ResourceState} {format : NameFormat}

namespace AlertingChannel

def settled (c : AlertingChannel) : AlertingChannel :=
  { c with
    emails := if c.kind = .email then c.emails else []
    webhookUrl := if c.kind = .slack then c.webhookUrl else none
    webhookUrls := if c.kind = .webHook then c.webhookUrls else []
    iconUrl := if c.kind = .slack then c.iconUrl else none
    channel := if c.kind = .slack then c.channel else none }

theorem validate_settled (c : AlertingChannel) : c.settled.validate = c.validate := by
  obtain ⟨id, name, kind, emails, webhookUrl, webhookUrls, iconUrl, channel⟩ := c
  cases kind <;> rfl

theorem changes_settled (c : AlertingChannel) : c.settled.changes = c.changes := by
  obtain ⟨id, name, kind, emails, webhookUrl, webhookUrls, iconUrl, channel⟩ := c
  cases kind <;> rfl

theorem ofState_of_shows {c : AlertingChannel} (hid : s.id = some c.id)
    (hname : format.fullName s "name" "full_name" = .ok c.name) (hs : s.Shows c.changes) :
    ofState c.kind s format = .ok c.settled := by
  obtain ⟨id, name, kind, emails, webhookUrl, webhookUrls, iconUrl, channel⟩ := c
  obtain ⟨-, hs⟩ := List.forall_mem_cons.mp hs
  rw [ofState, hname, Result.ok_bind, hid]
  cases kind with
  | email =>
    have hemails := ResourceState.stringList_of_get? (hs _ (.head _))
    simp only [hemails]
    rfl
  | slack =>
    have hurl := ResourceState.string?_of_get? (hs _ (.head _))
    have hicon := ResourceState.string?_of_get? (hs _ (.tail _ (.head _)))
    have hchannel := ResourceState.string?_of_get? (hs _ (.tail _ (.tail _ (.head _))))
    simp only [hurl, hicon, hchannel]
    rfl
  | webHook =>
    have hurls := ResourceState.stringList_of_get? (hs _ (.head _))
    simp only [hurls]
    rfl

end AlertingChannel

namespace AlertingConfiguration

def settled (c : AlertingConfiguration) : AlertingConfiguration :=
  { c with eventFilter :=
    { c.eventFilter with eventTypes := c.eventFilter.eventTypes.map EventType.harmonized } }

theorem changes_settled {c : AlertingConfiguration} (h : c.Valid) :
    c.settled.changes = c.changes := by
  rw [changes, settled, EventType.map_harmonized_harmonized h.eventFilter.supported]
  rfl

theorem Valid.settled {c : AlertingConfiguration} (h : c.Valid) : c.settled.Valid := by
  obtain ⟨hid, hname, hids, hquery, hchoice, hruleIds, ⟨hcount, hdistinct⟩, hsupported⟩ := h
  have hlower := EventType.map_harmonized_harmonized hsupported
  refine ⟨hid, hname, hids, hquery, ?_, hruleIds, ⟨?_, ?_⟩, ?_⟩
  · exact hchoice.trans (not_congr List.map_eq_nil_iff.symm)
  · rwa [AlertingConfiguration.settled, List.length_map]
  · rwa [AlertingConfiguration.settled, hlower]
  · intro t ht
    obtain ⟨word, hword, rfl⟩ := List.mem_map.mp ht
    exact EventType.isSupported_of_mem (EventType.harmonized_mem_supported (hsupported word hword))

theorem stringList_of_stringsIfAny {name : String} {items : List String}
    (h : s.get? name = stringsIfAny items) : s.stringList name = .ok items := by
  cases items with
  | nil => rw [ResourceState.stringList, h]; rfl
  | cons item rest => exact ResourceState.stringList_of_get? h

theorem ofState_of_shows {c : AlertingConfiguration} (hv : c.Valid) (hid : s.id = some c.id)
    (hname : format.fullName s "alert_name" "full_alert_name" = .ok c.alertName)
    (hs : s.Shows c.changes) : ofState s format = .ok c.settled := by
  obtain ⟨-, hs⟩ := List.forall_mem_cons.mp hs
  obtain ⟨hids, hs⟩ := List.forall_mem_cons.mp hs
  obtain ⟨hquery, hs⟩ := List.forall_mem_cons.mp hs
  obtain ⟨htypes, hs⟩ := List.forall_mem_cons.mp hs
  obtain ⟨hrules, -⟩ := List.forall_mem_cons.mp hs
  have hidSet := ResourceState.stringSet_of_stringList (ResourceState.stringList_of_get? hids)
    hv.integrationIds.2
  have htypeSet := ResourceState.stringSet_of_stringList (stringList_of_stringsIfAny htypes)
    hv.eventFilter.eventTypes.2
  have hruleSet := ResourceState.stringSet_of_stringList (stringList_of_stringsIfAny hrules)
    hv.eventFilter.ruleIds.2
  rw [ofState, hname]
  simp only [Result.ok_bind, hidSet, htypeSet, hruleSet, ResourceState.string?_of_get? hquery,
    EventType.map_harmonized_harmonized hv.eventFilter.supported, hid]
  rfl

end AlertingConfiguration

namespace ApplicationConfig

variable {c : ApplicationConfig} {e : Expression} {m : MatchSpecification}

def settled (c : ApplicationConfig) : ApplicationConfig :=
  { c with matchSpecification := c.matchSpecification.leftGrouped }

theorem validate_settled (h : c.validate = .ok ()) : c.settled.validate = .ok () := by
  simp only [validate, Result.then_eq_ok_iff, MatchSpecification.validate_eq_ok_iff] at h ⊢
  obtain ⟨hid, hblank, hlength, hm, hscope, hboundary⟩ := h
  exact ⟨hid, hblank, hlength, hm.leftGrouped, hscope, hboundary⟩

theorem changes_settled (c : ApplicationConfig) (e : Expression) :
    c.settled.changes e.leftGrouped = c.changes e := by
  rw [changes, e.render_leftGrouped]
  rfl

theorem specificationOf_render (he : m.toExpression = .ok e)
    (hd : m.leftGrouped.depth ≤ ParseErrorKind.maxNesting) :
    specificationOf e.render = .ok m.leftGrouped := by
  obtain ⟨hw, hf, hm⟩ := MatchSpecification.toExpression_eq_ok_iff.mp he
  have hgrouped := hm.leftGrouped hf
  rw [← hgrouped.height_eq hf.leftGrouped] at hd
  exact specificationOf_eq_ok_iff.mpr ⟨e.leftGrouped, Expression.parse_render_of_height_le hw hd,
    Expression.toSpecification_eq_ok_iff.mpr hgrouped⟩

theorem ofState_of_shows (hid : s.id = some c.id)
    (hname : format.fullName s "label" "full_label" = .ok c.label) (hs : s.Shows (c.changes e))
    (hm : specificationOf e.render = .ok m) :
    ofState s format = .ok { c with matchSpecification := m } := by
  obtain ⟨-, hs⟩ := List.forall_mem_cons.mp hs
  obtain ⟨hscope, hs⟩ := List.forall_mem_cons.mp hs
  obtain ⟨hboundary, hs⟩ := List.forall_mem_cons.mp hs
  obtain ⟨htext, -⟩ := List.forall_mem_cons.mp hs
  have hscope : s.string? "scope" = .ok (some c.scope) := ResourceState.string?_of_get? hscope
  have hboundary : s.string? "boundary_scope" = .ok (some c.boundaryScope) :=
    ResourceState.string?_of_get? hboundary
  rw [ofState, hname]
  simp only [Result.mapError_ok, Result.ok_bind, ResourceState.requiredString_of_get? htext, hm,
    hscope, hboundary, hid]
  rfl

end ApplicationConfig

namespace StoredObject

variable {o : StoredObject} {changes : List (String × Option AttributeValue)}

def settled : StoredObject → StoredObject
  | alertingChannel c => alertingChannel c.settled
  | alertingConfiguration c => alertingConfiguration c.settled
  | applicationConfig c => applicationConfig c.settled

def Readable : StoredObject → Prop
  | applicationConfig c => c.matchSpecification.leftGrouped.depth ≤ ParseErrorKind.maxNesting
  | _ => True

theorem readable_of_kind_ne (h : o.kind ≠ .applicationConfig) : o.Readable := by
  cases o with
  | alertingChannel c => trivial
  | alertingConfiguration c => trivial
  | applicationConfig c => exact absurd rfl h

theorem kind_settled (o : StoredObject) : o.settled.kind = o.kind := by
  cases o <;> rfl

theorem id_settled (o : StoredObject) : o.settled.id = o.id := by
  cases o <;> rfl

theorem validate_settled (h : o.validate = .ok ()) : o.settled.validate = .ok () := by
  cases o with
  | alertingChannel c => exact c.validate_settled.trans h
  | alertingConfiguration c =>
    have hv := AlertingConfiguration.validate_eq_ok_iff.mp h
    exact AlertingConfiguration.validate_eq_ok_iff.mpr hv.settled
  | applicationConfig c => exact ApplicationConfig.validate_settled h

theorem Writes.settled (hw : o.Writes changes) (hv : o.validate = .ok ()) :
    o.settled.Writes changes := by
  cases hw with
  | alertingChannel c =>
    rw [← c.changes_settled]
    exact .alertingChannel c.settled
  | alertingConfiguration c =>
    rw [← AlertingConfiguration.changes_settled (AlertingConfiguration.validate_eq_ok_iff.mp hv)]
    exact .alertingConfiguration c.settled
  | @applicationConfig c e he =>
    rw [← c.changes_settled e]
    exact .applicationConfig (MatchSpecification.toExpression_leftGrouped he)

theorem Writes.toObject (hw : o.Writes changes) (hv : o.validate = .ok ()) (hr : o.Readable)
    (hid : s.id = some o.id)
    (hname : format.fullName s o.kind.nameField o.kind.fullNameField = .ok o.name)
    (hs : s.Shows changes) : o.kind.toObject s format = .ok o.settled := by
  cases hw with
  | alertingChannel c =>
    rw [kind, ResourceKind.toObject, AlertingChannel.ofState_of_shows hid hname hs]
    rfl
  | alertingConfiguration c =>
    have hvalid := AlertingConfiguration.validate_eq_ok_iff.mp hv
    rw [kind, ResourceKind.toObject, AlertingConfiguration.ofState_of_shows hvalid hid hname hs]
    rfl
  | @applicationConfig c e he =>
    have hm := ApplicationConfig.specificationOf_render he hr
    rw [kind, ResourceKind.toObject, ApplicationConfig.ofState_of_shows hid hname hs hm]
    rfl

theorem depth_payload_le (h : o.kind ≠ .applicationConfig) : o.payload.depth ≤ 3 := by
  cases o with
  | alertingChannel c =>
    exact Nat.le_trans c.toJson.depth_canonical_le (Nat.le_succ_of_le c.depth_toJson_le)
  | alertingConfiguration c =>
    exact Nat.le_trans c.toJson.depth_canonical_le (Nat.le_of_eq c.depth_toJson)
  | applicationConfig c => exact absurd rfl h

end StoredObject

namespace ResourceKind

variable {k : ResourceKind} {o : StoredObject} {given : String}

theorem toObject_commit (h : k.store o s = (t, .ok ())) (hv : o.validate = .ok ())
    (hr : o.Readable) (hs : s.get? k.nameField = some (.string given)) (format : NameFormat) :
    k.toObject t.commit format = .ok o.settled := by
  have hname := (named_commit h hs).fullName format
  have hid := id_of_store h
  obtain ⟨rfl, changes, hw, rfl⟩ := store_eq_ok_iff.mp h
  exact hw.toObject hv hr hid hname (ResourceState.shows_assign hw.nodup)

theorem store_settled_commit (h : k.store o s = (t, .ok ())) (hv : o.validate = .ok ()) :
    k.store o.settled t.commit = (t.commit, .ok ()) := by
  have hid := id_of_store h
  have hset : t.commit.setId o.id = t.commit := ResourceState.setId_of_id (s := t.commit) hid
  obtain ⟨rfl, changes, hw, rfl⟩ := store_eq_ok_iff.mp h
  refine store_eq_ok_iff.mpr ⟨o.kind_settled, changes, hw.settled hv, ?_⟩
  rw [o.id_settled, hset]
  exact ResourceState.Shows.assign_eq (ResourceState.shows_assign hw.nodup)

theorem update_settled (h : k.store o s = (t, .ok ())) (hv : o.validate = .ok ())
    (hk : k ≠ .applicationConfig) (hs : s.get? k.nameField = some (.string given))
    (format : NameFormat) {client : Client} (he : client.Echoes) :
    k.update client format t.commit = ⟨[.put o.id o.settled.payload k.path], t.commit, .ok ()⟩ := by
  obtain ⟨rfl, -⟩ := store_eq_ok_iff.mp h
  have hmapped := toObject_commit h hv (StoredObject.readable_of_kind_ne hk) hs format
  have hvalid := StoredObject.validate_settled hv
  have hd : o.settled.payload.depth ≤ 3 := by
    apply StoredObject.depth_payload_le
    rwa [o.kind_settled]
  obtain ⟨stored, hstored, hupdate⟩ :=
    exists_update_of_echoes he hmapped hvalid (Nat.le_trans hd (by decide))
  rw [store_settled_commit h hv] at hstored
  cases hstored
  rw [hupdate, StoredObject.path_eq, o.kind_settled, o.id_settled]
  rfl

/-- A channel or an alert that was written into a state comes back as it was, but for fields of
other kinds and the case of event types. Writing back what came back changes nothing, and an update
then only sends what is stored already. -/
theorem alerting_object_comes_back (hk : o.kind ≠ .applicationConfig) (hv : o.validate = .ok ())
    (hs : s.get? o.kind.nameField = some (.string given)) (format : NameFormat) :
    ∃ stored, o.kind.updateState s o = .ok stored ∧
      o.kind.toObject stored.commit format = .ok o.settled ∧
      o.settled.validate = .ok () ∧
      (∃ again, o.kind.updateState stored.commit o.settled = .ok again ∧
        again.commit = stored.commit) ∧
      ∀ client : Client, client.Echoes → o.kind.update client format stored.commit =
        ⟨[.put o.id o.settled.payload o.kind.path], stored.commit, .ok ()⟩ := by
  obtain ⟨stored, hstore⟩ := StoredObject.exists_store hv s
  have hagain := store_settled_commit hstore hv
  refine ⟨stored, updateState_eq_ok_iff.mpr hstore, ?_, StoredObject.validate_settled hv,
    ⟨stored.commit, updateState_eq_ok_iff.mpr hagain, rfl⟩, ?_⟩
  · exact toObject_commit hstore hv (StoredObject.readable_of_kind_ne hk) hs format
  · intro client he
    exact update_settled hstore hv hk hs format he

def cpuAlert : AlertingConfiguration :=
  ⟨"cpu", "prod cpu", ["ops"], ⟨none, [], ["CRITICAL", "Offline"]⟩⟩

def cpuState : ResourceState :=
  (ResourceState.empty.set "alert_name" (.string "cpu")).set "event_filter_rule_ids"
    (.strings ["high load"])

theorem cpuAlert_comes_back :
    (StoredObject.alertingConfiguration cpuAlert).validate = .ok () ∧
    ∃ stored, alertingConfiguration.updateState cpuState (.alertingConfiguration cpuAlert) =
        .ok stored ∧
      stored.get? "event_filter_rule_ids" = none ∧
      alertingConfiguration.toObject stored.commit ⟨"test ", ""⟩ = .ok (.alertingConfiguration
        ⟨"cpu", "prod cpu", ["ops"], ⟨none, [], ["critical", "offline"]⟩⟩) := by
  have hv : (StoredObject.alertingConfiguration cpuAlert).validate = .ok () := by decide +kernel
  have hlower : (StoredObject.alertingConfiguration cpuAlert).settled = .alertingConfiguration
      ⟨"cpu", "prod cpu", ["ops"], ⟨none, [], ["critical", "offline"]⟩⟩ := by decide +kernel
  have hs : cpuState.get? "alert_name" = some (.string "cpu") := rfl
  obtain ⟨stored, hstored, hmapped, -⟩ :=
    alerting_object_comes_back (by decide) hv hs ⟨"test ", ""⟩
  refine ⟨hv, stored, hstored, ?_, hmapped.trans (congrArg Except.ok hlower)⟩
  cases hstored
  rfl

/-- An application comes back with the chains of its specification grouped to the left, which keeps
the filters, their order and the truth value. What came back is written to the same text and comes
back as it is, whatever the format of names. -/
theorem application_config_comes_back {c : ApplicationConfig} (hv : c.validate = .ok ())
    (hd : c.matchSpecification.leftGrouped.depth ≤ ParseErrorKind.maxNesting)
    (hs : s.get? "label" = some (.string given)) (format : NameFormat) :
    ∃ stored text,
      applicationConfig.updateState s (.applicationConfig c) = .ok stored ∧
      stored.get? "match_specification" = some (.string text) ∧
      applicationConfig.toObject stored.commit format = .ok (.applicationConfig c.settled) ∧
      c.settled.matchSpecification.filters = c.matchSpecification.filters ∧
      (∀ v, c.settled.matchSpecification.truth v = c.matchSpecification.truth v) ∧
      ∃ again,
        applicationConfig.updateState stored.commit (.applicationConfig c.settled) = .ok again ∧
        again.get? "match_specification" = some (.string text) ∧
        ∀ later, applicationConfig.toObject again.commit later =
          .ok (.applicationConfig c.settled) := by
  obtain ⟨stored, hstore⟩ := StoredObject.exists_store (o := .applicationConfig c) hv s
  have hagain := store_settled_commit hstore hv
  have hmapped := toObject_commit hstore hv hd hs
  obtain ⟨e, he, hstored⟩ := ApplicationConfig.store_eq_ok_iff.mp hstore
  have htext : stored.get? "match_specification" = some (.string e.render) := by
    rw [← hstored]
    have hshows := ResourceState.shows_assign (s := s.setId c.id)
      (StoredObject.Writes.applicationConfig he).nodup
    exact hshows ("match_specification", _) (.tail _ (.tail _ (.tail _ (.head _))))
  exact ⟨stored, e.render, updateState_eq_ok_iff.mpr hstore, htext, hmapped format,
    c.matchSpecification.filters_leftGrouped, c.matchSpecification.truth_leftGrouped,
    stored.commit, updateState_eq_ok_iff.mpr hagain, htext, hmapped⟩

open MatchSpecification (tagFilter logical)

def euCalls : MatchSpecification :=
  logical (tagFilter ⟨"zone", "EQUALS", none, some "eu"⟩) .conjunction
    (logical (tagFilter ⟨"error", "IS_EMPTY", none, none⟩) .conjunction
      (tagFilter ⟨"service", "NOT_CONTAIN", some "DESTINATION", some "test"⟩))

def euCallsGrouped : MatchSpecification :=
  logical (logical (tagFilter ⟨"zone", "EQUALS", none, some "eu"⟩) .conjunction
      (tagFilter ⟨"error", "IS_EMPTY", none, none⟩)) .conjunction
    (tagFilter ⟨"service", "NOT_CONTAIN", some "DESTINATION", some "test"⟩)

open ApplicationConfig (shopConfig shopState)

theorem euCalls_come_back :
    (shopConfig euCalls).validate = .ok () ∧ ∃ stored text,
      applicationConfig.updateState (shopState "") (.applicationConfig (shopConfig euCalls)) =
        .ok stored ∧
      stored.get? "match_specification" = some (.string text) ∧
      applicationConfig.toObject stored.commit ⟨"test ", ""⟩ =
        .ok (.applicationConfig (shopConfig euCallsGrouped)) ∧
      ∃ again,
        applicationConfig.updateState stored.commit
          (.applicationConfig (shopConfig euCallsGrouped)) = .ok again ∧
        again.get? "match_specification" = some (.string text) := by
  have hv : (shopConfig euCalls).validate = .ok () := rfl
  have hs : (shopState "").get? "label" = some (.string "shop") := rfl
  obtain ⟨stored, text, hstored, htext, hmapped, -, -, again, hagain, hsame, -⟩ :=
    application_config_comes_back hv (by decide) hs ⟨"test ", ""⟩
  exact ⟨hv, stored, text, hstored, htext, hmapped, again, hagain, hsame⟩

end ResourceKind

end Monitoring
