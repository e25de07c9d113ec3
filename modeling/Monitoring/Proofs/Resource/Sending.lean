import Monitoring.Proofs.MatchSpecification.Agreement
import Monitoring.Proofs.Remote.Decoding
import Monitoring.Proofs.Remote.Echo
import Monitoring.Proofs.Resource.Operations

namespace Monitoring

section Mapping

variable {s : ResourceState} {format : NameFormat}

theorem AlertingChannel.origin_of_ofState {kind : ChannelKind} {c : AlertingChannel}
    (h : ofState kind s format = .ok c) :
    c.kind = kind ∧ c.id = s.id.getD "" ∧ format.fullName s "name" "full_name" = .ok c.name := by
  obtain ⟨name, hname, h⟩ := Result.bind_eq_ok_iff.mp h
  cases kind with
  | email =>
    obtain ⟨emails, -, h⟩ := Result.bind_eq_ok_iff.mp h
    cases h
    exact ⟨rfl, rfl, hname⟩
  | slack =>
    obtain ⟨webhookUrl, -, h⟩ := Result.bind_eq_ok_iff.mp h
    obtain ⟨iconUrl, -, h⟩ := Result.bind_eq_ok_iff.mp h
    obtain ⟨channel, -, h⟩ := Result.bind_eq_ok_iff.mp h
    cases h
    exact ⟨rfl, rfl, hname⟩
  | webHook =>
    obtain ⟨webhookUrls, -, h⟩ := Result.bind_eq_ok_iff.mp h
    cases h
    exact ⟨rfl, rfl, hname⟩

theorem AlertingConfiguration.origin_of_ofState {c : AlertingConfiguration}
    (h : ofState s format = .ok c) :
    c.id = s.id.getD "" ∧
      format.fullName s "alert_name" "full_alert_name" = .ok c.alertName := by
  obtain ⟨alertName, hname, h⟩ := Result.bind_eq_ok_iff.mp h
  obtain ⟨eventTypes, -, h⟩ := Result.bind_eq_ok_iff.mp h
  obtain ⟨integrationIds, -, h⟩ := Result.bind_eq_ok_iff.mp h
  obtain ⟨query, -, h⟩ := Result.bind_eq_ok_iff.mp h
  obtain ⟨ruleIds, -, h⟩ := Result.bind_eq_ok_iff.mp h
  cases h
  exact ⟨rfl, hname⟩

theorem ApplicationConfig.origin_of_ofState {c : ApplicationConfig}
    (h : ofState s format = .ok c) :
    c.id = s.id.getD "" ∧ format.fullName s "label" "full_label" = .ok c.label := by
  obtain ⟨label, hname, h⟩ := Result.bind_eq_ok_iff.mp h
  obtain ⟨text, -, h⟩ := Result.bind_eq_ok_iff.mp h
  obtain ⟨specification, -, h⟩ := Result.bind_eq_ok_iff.mp h
  obtain ⟨scope, -, h⟩ := Result.bind_eq_ok_iff.mp h
  obtain ⟨boundaryScope, -, h⟩ := Result.bind_eq_ok_iff.mp h
  cases h
  exact ⟨rfl, Result.mapError_eq_ok_iff.mp hname⟩

theorem ResourceKind.kind_id_of_toObject {k : ResourceKind} {o : StoredObject}
    (h : k.toObject s format = .ok o) : o.kind = k ∧ o.id = s.id.getD "" := by
  cases k with
  | alertingChannel kind =>
    obtain ⟨c, hc, rfl⟩ := Result.map_eq_ok_iff.mp h
    have hc := AlertingChannel.origin_of_ofState (Result.mapError_eq_ok_iff.mp hc)
    exact ⟨congrArg ResourceKind.alertingChannel hc.1, hc.2.1⟩
  | alertingConfiguration =>
    obtain ⟨c, hc, rfl⟩ := Result.map_eq_ok_iff.mp h
    exact ⟨rfl, (AlertingConfiguration.origin_of_ofState (Result.mapError_eq_ok_iff.mp hc)).1⟩
  | applicationConfig =>
    obtain ⟨c, hc, rfl⟩ := Result.map_eq_ok_iff.mp h
    exact ⟨rfl, (ApplicationConfig.origin_of_ofState hc).1⟩

end Mapping

namespace StoredObject

variable {o : StoredObject} {client : Client}

theorem field?_id_payload (o : StoredObject) : o.payload.field? "id" = some (.string o.id) := by
  cases o with
  | alertingChannel c =>
    simp [payload, id, AlertingChannel.toJson, List.lookup_append]
  | alertingConfiguration c => simp [payload, id, AlertingConfiguration.toJson]
  | applicationConfig c => simp [payload, id, ApplicationConfig.toJson]

theorem isBlank_id (h : o.validate = .ok ()) : Text.isBlank o.id = false := by
  have hid : Validation.nonBlank "ID" o.id = .ok () := by
    cases o with
    | alertingChannel c => exact (Result.then_eq_ok_iff.mp h).1
    | alertingConfiguration c => exact (Result.then_eq_ok_iff.mp h).1
    | applicationConfig c => exact (Result.then_eq_ok_iff.mp h).1
  rwa [Validation.nonBlank, Validation.ensure_eq_ok_iff, Bool.not_eq_true'] at hid

theorem upsert_of_invalid {e : ValidationError} (h : o.validate = .error e) :
    o.upsert client = ⟨[], .error (.validation e)⟩ := by
  cases o with
  | alertingChannel c => rw [upsert, Collection.upsert_of_invalid h]; rfl
  | alertingConfiguration c => rw [upsert, Collection.upsert_of_invalid h]; rfl
  | applicationConfig c => rw [upsert, Collection.upsert_of_invalid h]; rfl

theorem upsert_of_valid (h : o.validate = .ok ()) :
    o.upsert client =
      ⟨[.put o.id o.payload o.path], o.kind.receive (client.put o.id o.payload o.path)⟩ := by
  cases o with
  | alertingChannel c => rw [upsert, Collection.upsert_of_valid h]; rfl
  | alertingConfiguration c => rw [upsert, Collection.upsert_of_valid h]; rfl
  | applicationConfig c => rw [upsert, Collection.upsert_of_valid h]; rfl

theorem calls_upsert (h : o.validate = .ok ()) :
    (o.upsert client).calls = [.put o.id o.payload o.path] := by
  rw [upsert_of_valid h]

theorem result_upsert (h : o.validate = .ok ()) :
    (o.upsert client).result = o.kind.receive (client.put o.id o.payload o.path) := by
  rw [upsert_of_valid h]

theorem result_upsert_of_echoes (he : client.Echoes) (h : o.validate = .ok ())
    (hd : o.payload.depth ≤ Json.maxNesting) : (o.upsert client).result = .ok o := by
  cases o with
  | alertingChannel c =>
    have hu := Collection.upsert_of_echoes (o := c) he h c.legible_toJson rfl c.ofJson?_canonical
    rw [upsert, mapExchange, hu.trans (if_pos hd)]
    rfl
  | alertingConfiguration c =>
    have hu := Collection.upsert_of_echoes (o := c) he h c.legible_toJson rfl c.ofJson?_canonical
    rw [upsert, mapExchange, hu.trans (if_pos hd)]
    rfl
  | applicationConfig c =>
    have hu := Collection.upsert_of_echoes (o := c) he h c.legible_toJson rfl
      c.ofJson?_sortedFields
    rw [upsert, mapExchange, hu.trans (if_pos hd)]
    rfl

theorem exists_store (h : o.validate = .ok ()) (s : ResourceState) :
    ∃ stored, o.kind.store o s = (stored, .ok ()) := by
  cases o with
  | alertingChannel c => exact ⟨c.store s, ResourceKind.store_alertingChannel c s⟩
  | alertingConfiguration c => exact ⟨c.store s, rfl⟩
  | applicationConfig c =>
    have hm := MatchSpecification.validate_eq_ok_iff.mp (c.validate_matchSpecification h)
    obtain ⟨e, he⟩ := hm.toExpression
    exact c.store_eq_ok he s

end StoredObject

namespace ResourceKind

variable {k : ResourceKind} {client : Client} {format : NameFormat} {s : ResourceState}
variable {o : StoredObject}

theorem update_of_invalid {e : ValidationError} (ho : k.toObject s format = .ok o)
    (hv : o.validate = .error e) :
    k.update client format s = ⟨[], s, .error (.remote (.validation e))⟩ := by
  have hrefused : o.upsert client = ⟨[], .error (.validation e)⟩ :=
    StoredObject.upsert_of_invalid hv
  rw [update_of_refused ho (congrArg Exchange.result hrefused), hrefused]

theorem update_of_put_error {e : TransportError} (ho : k.toObject s format = .ok o)
    (hv : o.validate = .ok ()) (h : client.put o.id o.payload o.path = .error e) :
    k.update client format s =
      ⟨[.put o.id o.payload o.path], s, .error (.remote (.transport e))⟩ := by
  have hrefused : o.upsert client = ⟨[.put o.id o.payload o.path], .error (.transport e)⟩ := by
    rw [StoredObject.upsert_of_valid hv, h, receive_error]
  rw [update_of_refused ho (congrArg Exchange.result hrefused), hrefused]

theorem exists_update_of_echoes (he : client.Echoes) (ho : k.toObject s format = .ok o)
    (hv : o.validate = .ok ()) (hd : o.payload.depth ≤ Json.maxNesting) :
    ∃ stored, k.store o s = (stored, .ok ()) ∧
      k.update client format s = ⟨[.put o.id o.payload o.path], stored.commit, .ok ()⟩ := by
  obtain ⟨hkind, -⟩ := kind_id_of_toObject ho
  obtain ⟨stored, hstore⟩ := StoredObject.exists_store hv s
  rw [hkind] at hstore
  refine ⟨stored, hstore, ?_⟩
  rw [update_of_stored ho (StoredObject.result_upsert_of_echoes he hv hd),
    accept_of_store hstore, StoredObject.calls_upsert hv]

end ResourceKind

end Monitoring
