import Monitoring.Proofs.Remote.Echo
import Monitoring.Proofs.Resource.Operations

/-!
What a failure leaves behind. All that can fail in updating, reading and deleting comes before the
first write to the state. Creating writes the id first, so that a failed creation leaves an id
under which nothing is stored.
-/

namespace Monitoring

def Client.unreachable : Client where
  getOne _ path := .error (.failed path "unreachable")
  getAll path := .error (.failed path "unreachable")
  put _ _ path := .error (.failed path "unreachable")
  delete _ path := .error (.failed path "unreachable")

namespace ResourceKind

variable {k : ResourceKind} {client : Client} {format : NameFormat} {s : ResourceState}
variable {id : String}

theorem state_of_update_error {e : ResourceError}
    (h : (k.update client format s).result = .error e) :
    (k.update client format s).state = s := by
  cases ho : k.toObject s format with
  | error e' => rw [update_of_unmapped ho]
  | ok o =>
    cases hr : (o.upsert client).result with
    | error e' => rw [update_of_refused ho hr]
    | ok stored =>
      rw [update_of_stored ho hr] at h ⊢
      exact state_of_accept_error h

theorem state_of_read_error {e : ResourceError} (h : (k.read client s).result = .error e) :
    (k.read client s).state = s := by
  cases hid : s.id with
  | none => rw [read_of_missingId hid]
  | some id =>
    cases hr : (k.fetch client id).result with
    | ok o =>
      rw [read_of_found hid hr] at h ⊢
      exact state_of_accept_error h
    | error e' =>
      cases he : e'.isNotFound with
      | true =>
        rw [read_of_notFound hid hr he] at h
        cases h
      | false => rw [read_of_failed hid hr he]

theorem state_of_delete_error {e : ResourceError} (h : (k.delete client s).result = .error e) :
    (k.delete client s).state = s := by
  cases hid : s.id with
  | none => rw [delete_of_missingId hid]
  | some id =>
    cases hr : (k.deleteById client id).result with
    | ok u =>
      rw [delete_of_deleted hid hr] at h
      cases h
    | error e' => rw [delete_of_failed hid hr]

/-- An update, a read or a deletion that fails leaves the state as it was, and so does writing an
object that the kind cannot take. Of an object that is gone only the id is cleared. -/
theorem failure_leaves_state (k : ResourceKind) (s : ResourceState) :
    (∀ client format e, (k.update client format s).result = .error e →
      (k.update client format s).state = s) ∧
    (∀ client e, (k.read client s).result = .error e → (k.read client s).state = s) ∧
    (∀ client e, (k.delete client s).result = .error e → (k.delete client s).state = s) ∧
    (∀ client id e, s.id = some id → client.getOne id k.path = .error e → e.isNotFound = true →
      (k.read client s).result = .ok () ∧ (k.read client s).state = { s with id := none }) ∧
    (∀ o e, (k.store o s).2 = .error e → (k.store o s).1 = s) ∧
    ∀ o, o.kind ≠ k → k.store o s = (s, .error (.kindMismatch k.typeName o.description)) := by
  refine ⟨?_, ?_, ?_, ?_, ?_, ?_⟩
  · intro client format e h
    exact state_of_update_error h
  · intro client e h
    exact state_of_read_error h
  · intro client e h
    exact state_of_delete_error h
  · intro client id e hid h he
    exact read_of_gone hid h he
  · intro o e h
    exact state_of_store_error h
  · intro o h
    exact store_of_kind_ne h s

def opsState : ResourceState :=
  ((ResourceState.empty.setId "ops").set "name" (.string "ops")).set "emails"
    (.strings ["ops@example.com"])

theorem failure_leaves_opsState :
    (∃ e, ((alertingChannel .email).update .unreachable ⟨"", ""⟩ opsState).result = .error e) ∧
    ((alertingChannel .email).update .unreachable ⟨"", ""⟩ opsState).state = opsState ∧
    ((alertingChannel .email).read .unreachable opsState).state = opsState ∧
    ((alertingChannel .email).delete .unreachable opsState).state = opsState ∧
    ((alertingChannel .email).read .echo opsState).state = { opsState with id := none } ∧
    ((alertingChannel .email).store
      (.alertingChannel (.bare "ops" "ops" .slack)) opsState).1 = opsState := by
  obtain ⟨hupdate, hread, hdelete, hgone, hstore, -⟩ :=
    failure_leaves_state (alertingChannel .email) opsState
  have hunreachable : ((alertingChannel .email).update .unreachable ⟨"", ""⟩ opsState).result =
      .error (.remote (.transport (.failed "/events/settings/alertingChannels" "unreachable"))) := rfl
  refine ⟨⟨_, hunreachable⟩, hupdate .unreachable ⟨"", ""⟩ _ hunreachable,
    hread .unreachable _ rfl, hdelete .unreachable _ rfl, ?_, hstore _ _ rfl⟩
  exact (hgone .echo "ops" _ rfl rfl rfl).2

/-- A creation that fails leaves an id: the one that the state had, or else the fresh one. A state
without an id is thus changed, and later requests ask for an object that was never stored. -/
theorem failed_create_keeps_freshId (k : ResourceKind) (client : Client) (format : NameFormat)
    (freshId : String) (s : ResourceState) (e : ResourceError)
    (h : (k.create client format freshId s).result = .error e) :
    (k.create client format freshId s).state = { s with id := some (s.id.getD freshId) } ∧
    ((k.create client format freshId s).state = s ↔ s.id ≠ none) ∧
    (s.id = none → ∀ later : Client,
      (k.read later (k.create client format freshId s).state).calls = [.getOne freshId k.path] ∧
      (k.delete later (k.create client format freshId s).state).calls =
        [.delete freshId k.path]) := by
  have hleft : (k.create client format freshId s).state =
      { s with id := some (s.id.getD freshId) } := by
    rw [create_eq] at h ⊢
    exact state_of_update_error h
  rw [hleft]
  refine ⟨rfl, ?_, ?_⟩
  · cases hid : s.id with
    | none =>
      refine ⟨fun hs => ?_, fun hs => absurd rfl hs⟩
      rw [← hs] at hid
      cases hid
    | some id =>
      refine ⟨fun _ => Option.some_ne_none id, fun _ => ?_⟩
      rw [Option.getD_some, ← hid]
  · intro hid later
    have hfresh : ({ s with id := some (s.id.getD freshId) } : ResourceState).id =
        some freshId := by rw [hid, Option.getD_none]
    exact ⟨calls_read hfresh, calls_delete hfresh⟩

def hookState : ResourceState :=
  (ResourceState.empty.set "name" (.string "hook")).set "webhook_urls"
    (.strings ["https://example.com", "https://example.com"])

theorem failed_create_hookState :
    ((alertingChannel .webHook).create .echo ⟨"", ""⟩ "fresh" hookState).result =
      .error (.remote (.validation (.notUnique "WebhookURLs"))) ∧
    ((alertingChannel .webHook).create .echo ⟨"", ""⟩ "fresh" hookState).state =
      { hookState with id := some "fresh" } := by
  have h : ((alertingChannel .webHook).create .echo ⟨"", ""⟩ "fresh" hookState).result =
      .error (.remote (.validation (.notUnique "WebhookURLs"))) := rfl
  exact ⟨h, (failed_create_keeps_freshId _ _ _ _ _ _ h).1⟩

end ResourceKind

end Monitoring
