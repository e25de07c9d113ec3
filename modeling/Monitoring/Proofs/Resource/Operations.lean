import Monitoring.Proofs.Resource.Storing
import Monitoring.Resource.Lifecycle

namespace Monitoring

namespace Collection

variable {α : Type} [Storable α] {client : Client} {o : α}

theorem upsert_of_invalid {e : ValidationError} (h : Storable.validate o = .error e) :
    upsert client o = ⟨[], .error (.validation e)⟩ := by
  rw [upsert, h]

theorem upsert_of_valid (h : Storable.validate o = .ok ()) :
    upsert client o = ⟨[.put (Storable.id o) (Storable.toJson o).canonical (Storable.path α)],
      answer (objectOfBody α)
        (client.put (Storable.id o) (Storable.toJson o).canonical (Storable.path α))⟩ := by
  rw [upsert, h]

end Collection

namespace ResourceKind

variable {k : ResourceKind} {client : Client} {format : NameFormat} {s : ResourceState}

def receive (k : ResourceKind) (a : Except TransportError ByteArray) :
    Except RemoteError StoredObject :=
  match k with
  | alertingChannel _ =>
    (Collection.answer (Collection.objectOfBody AlertingChannel) a).map .alertingChannel
  | alertingConfiguration =>
    (Collection.answer (Collection.objectOfBody AlertingConfiguration) a).map
      .alertingConfiguration
  | applicationConfig =>
    (Collection.answer (Collection.objectOfBody ApplicationConfig) a).map .applicationConfig

@[simp]
theorem receive_error (k : ResourceKind) (e : TransportError) :
    k.receive (.error e) = .error (.transport e) := by
  cases k <;> rfl

theorem result_fetch (k : ResourceKind) (client : Client) (id : String) :
    (k.fetch client id).result = k.receive (client.getOne id k.path) := by
  cases k <;> rfl

section Accept

variable {calls : List Call} {o : StoredObject} {e : ResourceError}

@[simp]
theorem calls_accept : (k.accept s calls o).calls = calls := by
  unfold accept
  split <;> rfl

theorem state_of_accept_error (h : (k.accept s calls o).result = .error e) :
    (k.accept s calls o).state = s := by
  unfold accept at h ⊢
  split
  · rename_i hs
    rw [hs] at h
    cases h
  · rename_i left e' hs
    have hleft := state_of_store_error (congrArg Prod.snd hs)
    rw [hs] at hleft
    exact hleft

theorem accept_of_store {stored : ResourceState} (h : k.store o s = (stored, .ok ())) :
    k.accept s calls o = ⟨calls, stored.commit, .ok ()⟩ := by
  rw [accept, h]

end Accept

section Update

variable {o stored : StoredObject}

theorem update_of_unmapped {e : ResourceError} (h : k.toObject s format = .error e) :
    k.update client format s = ⟨[], s, .error e⟩ := by
  rw [update, h]

theorem update_of_refused {e : RemoteError} (ho : k.toObject s format = .ok o)
    (h : (o.upsert client).result = .error e) :
    k.update client format s = ⟨(o.upsert client).calls, s, .error (.remote e)⟩ := by
  simp only [update, ho, h]

theorem update_of_stored (ho : k.toObject s format = .ok o)
    (h : (o.upsert client).result = .ok stored) :
    k.update client format s = k.accept s (o.upsert client).calls stored := by
  simp only [update, ho, h]

theorem calls_update (ho : k.toObject s format = .ok o) :
    (k.update client format s).calls = (o.upsert client).calls := by
  cases hr : (o.upsert client).result with
  | error e => rw [update_of_refused ho hr]
  | ok stored => rw [update_of_stored ho hr, calls_accept]

theorem create_eq (freshId : String) :
    k.create client format freshId s =
      k.update client format { s with id := some (s.id.getD freshId) } := by
  cases hid : s.id with
  | none =>
    rw [create, hid]
    rfl
  | some id =>
    have hs : { s with id := some id } = s := by rw [← hid]
    rw [create, hid, Option.getD_some, hs]
    rfl

end Update

section ById

variable {id : String}

@[simp]
theorem calls_fetch (k : ResourceKind) (client : Client) (id : String) :
    (k.fetch client id).calls = [.getOne id k.path] := by
  cases k <;> rfl

@[simp]
theorem calls_deleteById (k : ResourceKind) (client : Client) (id : String) :
    (k.deleteById client id).calls = [.delete id k.path] := by
  cases k <;> rfl

theorem result_fetch_of_error {e : TransportError} (h : client.getOne id k.path = .error e) :
    (k.fetch client id).result = .error (.transport e) := by
  rw [result_fetch, h, receive_error]

theorem read_of_missingId (hid : s.id = none) :
    k.read client s = ⟨[], s, .error (.missingId k.typeName)⟩ := by
  rw [read, hid]

theorem read_of_found {o : StoredObject} (hid : s.id = some id)
    (h : (k.fetch client id).result = .ok o) :
    k.read client s = k.accept s (k.fetch client id).calls o := by
  simp only [read, hid, h]

theorem read_of_notFound {e : RemoteError} (hid : s.id = some id)
    (h : (k.fetch client id).result = .error e) (he : e.isNotFound = true) :
    k.read client s = ⟨(k.fetch client id).calls, s.clearId, .ok ()⟩ := by
  simp only [read, hid, h, he, if_true]

theorem read_of_failed {e : RemoteError} (hid : s.id = some id)
    (h : (k.fetch client id).result = .error e) (he : e.isNotFound = false) :
    k.read client s = ⟨(k.fetch client id).calls, s, .error (.remote e)⟩ := by
  simp only [read, hid, h, he, Bool.false_eq_true, if_false]

theorem delete_of_missingId (hid : s.id = none) :
    k.delete client s = ⟨[], s, .error (.missingId k.typeName)⟩ := by
  rw [delete, hid]

theorem delete_of_deleted (hid : s.id = some id) (h : (k.deleteById client id).result = .ok ()) :
    k.delete client s = ⟨(k.deleteById client id).calls, s.clearId, .ok ()⟩ := by
  simp only [delete, hid, h]

theorem delete_of_failed {e : RemoteError} (hid : s.id = some id)
    (h : (k.deleteById client id).result = .error e) :
    k.delete client s = ⟨(k.deleteById client id).calls, s, .error (.remote e)⟩ := by
  simp only [delete, hid, h]

theorem read_of_gone {e : TransportError} (hid : s.id = some id)
    (h : client.getOne id k.path = .error e) (he : e.isNotFound = true) :
    (k.read client s).result = .ok () ∧ (k.read client s).state = { s with id := none } := by
  rw [read_of_notFound hid (result_fetch_of_error h) he]
  exact ⟨rfl, rfl⟩

theorem calls_read (hid : s.id = some id) : (k.read client s).calls = [.getOne id k.path] := by
  rw [← calls_fetch k client id]
  cases hr : (k.fetch client id).result with
  | ok o => rw [read_of_found hid hr, calls_accept]
  | error e =>
    cases he : e.isNotFound with
    | true => rw [read_of_notFound hid hr he]
    | false => rw [read_of_failed hid hr he]

theorem calls_delete (hid : s.id = some id) :
    (k.delete client s).calls = [.delete id k.path] := by
  rw [← calls_deleteById k client id]
  cases hr : (k.deleteById client id).result with
  | ok u => rw [delete_of_deleted hid hr]
  | error e => rw [delete_of_failed hid hr]

end ById

end ResourceKind

end Monitoring
