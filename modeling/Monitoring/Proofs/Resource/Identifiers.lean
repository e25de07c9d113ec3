import Monitoring.Proofs.Resource.Changes
import Monitoring.Proofs.Resource.Sending

namespace Monitoring

namespace ResourceState

variable {s : ResourceState}

theorem setOptional_setId (s : ResourceState) (id name : String) (value : Option AttributeValue) :
    (s.setId id).setOptional name value = (s.setOptional name value).setId id := by
  cases value <;> rfl

theorem assign_setId (s : ResourceState) (id : String)
    (changes : List (String × Option AttributeValue)) :
    (s.setId id).assign changes = (s.assign changes).setId id := by
  induction changes generalizing s with
  | nil => rfl
  | cons change rest ih => rw [assign, assign, setOptional_setId, ih]

end ResourceState

section Mapping

variable {s : ResourceState} {format : NameFormat}

theorem AlertingChannel.ofState_setId {kind : ChannelKind} {c : AlertingChannel}
    (h : ofState kind s format = .ok c) (id : String) :
    ofState kind (s.setId id) format = .ok { c with id } := by
  obtain ⟨name, hname, h⟩ := Result.bind_eq_ok_iff.mp h
  refine Result.bind_eq_ok_iff.mpr ⟨name, hname, ?_⟩
  cases kind with
  | email =>
    obtain ⟨emails, hemails, h⟩ := Result.bind_eq_ok_iff.mp h
    cases h
    exact Result.bind_eq_ok_iff.mpr ⟨emails, hemails, rfl⟩
  | slack =>
    obtain ⟨webhookUrl, hwebhookUrl, h⟩ := Result.bind_eq_ok_iff.mp h
    obtain ⟨iconUrl, hiconUrl, h⟩ := Result.bind_eq_ok_iff.mp h
    obtain ⟨channel, hchannel, h⟩ := Result.bind_eq_ok_iff.mp h
    cases h
    refine Result.bind_eq_ok_iff.mpr ⟨webhookUrl, hwebhookUrl, ?_⟩
    refine Result.bind_eq_ok_iff.mpr ⟨iconUrl, hiconUrl, ?_⟩
    exact Result.bind_eq_ok_iff.mpr ⟨channel, hchannel, rfl⟩
  | webHook =>
    obtain ⟨webhookUrls, hwebhookUrls, h⟩ := Result.bind_eq_ok_iff.mp h
    cases h
    exact Result.bind_eq_ok_iff.mpr ⟨webhookUrls, hwebhookUrls, rfl⟩

theorem AlertingConfiguration.ofState_setId {c : AlertingConfiguration}
    (h : ofState s format = .ok c) (id : String) :
    ofState (s.setId id) format = .ok { c with id } := by
  obtain ⟨alertName, hname, h⟩ := Result.bind_eq_ok_iff.mp h
  obtain ⟨eventTypes, heventTypes, h⟩ := Result.bind_eq_ok_iff.mp h
  obtain ⟨integrationIds, hintegrationIds, h⟩ := Result.bind_eq_ok_iff.mp h
  obtain ⟨query, hquery, h⟩ := Result.bind_eq_ok_iff.mp h
  obtain ⟨ruleIds, hruleIds, h⟩ := Result.bind_eq_ok_iff.mp h
  cases h
  refine Result.bind_eq_ok_iff.mpr ⟨alertName, hname, ?_⟩
  refine Result.bind_eq_ok_iff.mpr ⟨eventTypes, heventTypes, ?_⟩
  refine Result.bind_eq_ok_iff.mpr ⟨integrationIds, hintegrationIds, ?_⟩
  refine Result.bind_eq_ok_iff.mpr ⟨query, hquery, ?_⟩
  exact Result.bind_eq_ok_iff.mpr ⟨ruleIds, hruleIds, rfl⟩

theorem ApplicationConfig.ofState_setId {c : ApplicationConfig}
    (h : ofState s format = .ok c) (id : String) :
    ofState (s.setId id) format = .ok { c with id } := by
  obtain ⟨label, hlabel, h⟩ := Result.bind_eq_ok_iff.mp h
  obtain ⟨text, htext, h⟩ := Result.bind_eq_ok_iff.mp h
  obtain ⟨specification, hspecification, h⟩ := Result.bind_eq_ok_iff.mp h
  obtain ⟨scope, hscope, h⟩ := Result.bind_eq_ok_iff.mp h
  obtain ⟨boundaryScope, hboundaryScope, h⟩ := Result.bind_eq_ok_iff.mp h
  cases h
  refine Result.bind_eq_ok_iff.mpr ⟨label, hlabel, ?_⟩
  refine Result.bind_eq_ok_iff.mpr ⟨text, htext, ?_⟩
  refine Result.bind_eq_ok_iff.mpr ⟨specification, hspecification, ?_⟩
  refine Result.bind_eq_ok_iff.mpr ⟨scope, hscope, ?_⟩
  exact Result.bind_eq_ok_iff.mpr ⟨boundaryScope, hboundaryScope, rfl⟩

theorem ResourceKind.toObject_setId {k : ResourceKind} {o : StoredObject}
    (h : k.toObject s format = .ok o) (id : String) :
    k.toObject (s.setId id) format = .ok (o.setId id) := by
  cases k with
  | alertingChannel kind =>
    obtain ⟨c, hc, rfl⟩ := Result.map_eq_ok_iff.mp h
    have hid := AlertingChannel.ofState_setId (Result.mapError_eq_ok_iff.mp hc) id
    exact Result.map_eq_ok_iff.mpr ⟨_, Result.mapError_eq_ok_iff.mpr hid, rfl⟩
  | alertingConfiguration =>
    obtain ⟨c, hc, rfl⟩ := Result.map_eq_ok_iff.mp h
    have hid := AlertingConfiguration.ofState_setId (Result.mapError_eq_ok_iff.mp hc) id
    exact Result.map_eq_ok_iff.mpr ⟨_, Result.mapError_eq_ok_iff.mpr hid, rfl⟩
  | applicationConfig =>
    obtain ⟨c, hc, rfl⟩ := Result.map_eq_ok_iff.mp h
    exact Result.map_eq_ok_iff.mpr ⟨_, ApplicationConfig.ofState_setId hc id, rfl⟩

end Mapping

namespace StoredObject

variable {o : StoredObject} {id : String} {changes : List (String × Option AttributeValue)}

@[simp]
theorem id_setId (o : StoredObject) (id : String) : (o.setId id).id = id := by
  cases o <;> rfl

@[simp]
theorem kind_setId (o : StoredObject) (id : String) : (o.setId id).kind = o.kind := by
  cases o <;> rfl

@[simp]
theorem path_setId (o : StoredObject) (id : String) : (o.setId id).path = o.path := by
  cases o <;> rfl

theorem validate_setId (h : o.validate = .ok ()) (hid : Text.isBlank id = false) :
    (o.setId id).validate = .ok () := by
  have hnonBlank : Validation.nonBlank "ID" id = .ok () := by
    rw [Validation.nonBlank_eq, hid]
    rfl
  cases o with
  | alertingChannel c =>
    exact Result.then_eq_ok_iff.mpr ⟨hnonBlank, (Result.then_eq_ok_iff.mp h).2⟩
  | alertingConfiguration c =>
    exact Result.then_eq_ok_iff.mpr ⟨hnonBlank, (Result.then_eq_ok_iff.mp h).2⟩
  | applicationConfig c =>
    exact Result.then_eq_ok_iff.mpr ⟨hnonBlank, (Result.then_eq_ok_iff.mp h).2⟩

theorem Writes.setId (h : o.Writes changes) (id : String) : (o.setId id).Writes changes := by
  cases h with
  | alertingChannel c => exact .alertingChannel { c with id }
  | alertingConfiguration c => exact .alertingConfiguration { c with id }
  | applicationConfig he => exact .applicationConfig he

end StoredObject

theorem ResourceKind.store_setId {k : ResourceKind} {o : StoredObject} {s stored : ResourceState}
    (h : k.store o s = (stored, .ok ())) (id : String) :
    k.store (o.setId id) (s.setId id) = (stored.setId id, .ok ()) := by
  obtain ⟨rfl, changes, hw, rfl⟩ := store_eq_ok_iff.mp h
  refine store_eq_ok_iff.mpr ⟨o.kind_setId id, changes, hw.setId id, ?_⟩
  rw [StoredObject.id_setId, ResourceState.assign_setId, ResourceState.assign_setId,
    ResourceState.assign_setId]
  rfl

end Monitoring
