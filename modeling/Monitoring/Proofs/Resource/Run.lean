import Monitoring.Proofs.Resource.Failure
import Monitoring.Proofs.Resource.Sending

namespace Monitoring

inductive Operation
  | create (client : Client) (format : NameFormat) (freshId : String)
  | read (client : Client)
  | update (client : Client) (format : NameFormat)
  | delete (client : Client)
  | assign (name : String) (value : Option AttributeValue)

structure Event where
  operation : Operation
  before : ResourceState
  outcome : Outcome

namespace ResourceKind

variable {k : ResourceKind} {client : Client} {format : NameFormat} {s : ResourceState}

def perform (k : ResourceKind) (s : ResourceState) : Operation → Outcome
  | .create client format freshId => k.create client format freshId s
  | .read client => k.read client s
  | .update client format => k.update client format s
  | .delete client => k.delete client s
  | .assign name value => ⟨[], s.setOptional name value, .ok ()⟩

def run (k : ResourceKind) (s : ResourceState) : List Operation → List Event
  | [] => []
  | operation :: rest =>
    ⟨operation, s, k.perform s operation⟩ :: k.run (k.perform s operation).state rest

inductive StoresMapped (k : ResourceKind) (format : NameFormat) (s : ResourceState) :
    List Call → Prop
  | nothing (h : ∀ o, k.toObject s format = .ok o → o.validate ≠ .ok ()) :
    StoresMapped k format s []
  | put {o : StoredObject} {id : String} (ho : k.toObject s format = .ok o)
    (hv : o.validate = .ok ()) (hs : s.id = some id)
    (hid : o.payload.field? "id" = some (.string id)) (hblank : Text.isBlank id = false) :
    StoresMapped k format s [.put id o.payload k.path]

def AsksById (k : ResourceKind) (request : (id path : String) → Call) (s : ResourceState)
    (outcome : Outcome) : Prop :=
  match s.id with
  | some id => outcome.calls = [request id k.path]
  | none => outcome.calls = [] ∧ outcome.result = .error (.missingId k.typeName)

def Disciplined (k : ResourceKind) (event : Event) : Prop :=
  match event.operation with
  | .create _ format freshId =>
    k.StoresMapped format { event.before with id := some (event.before.id.getD freshId) }
      event.outcome.calls
  | .read _ => k.AsksById .getOne event.before event.outcome
  | .update _ format => k.StoresMapped format event.before event.outcome.calls
  | .delete _ => k.AsksById .delete event.before event.outcome
  | .assign _ _ => event.outcome.calls = []

theorem storesMapped_update : k.StoresMapped format s (k.update client format s).calls := by
  cases ho : k.toObject s format with
  | error e =>
    rw [update_of_unmapped ho]
    refine .nothing fun o h => ?_
    rw [ho] at h
    cases h
  | ok o =>
    rw [calls_update ho]
    obtain ⟨hkind, hoid⟩ := kind_id_of_toObject ho
    cases hv : o.validate with
    | error e =>
      rw [StoredObject.upsert_of_invalid hv]
      refine .nothing fun o' h => ?_
      rw [ho] at h
      cases h
      rw [hv]
      exact nofun
    | ok _ =>
      have hblank := StoredObject.isBlank_id hv
      rw [StoredObject.calls_upsert hv, StoredObject.path_eq, hkind]
      cases hs : s.id with
      | none =>
        rw [hoid, hs] at hblank
        cases hblank
      | some id =>
        rw [hs, Option.getD_some] at hoid
        subst hoid
        exact .put ho hv hs o.field?_id_payload hblank

theorem asksById_read : k.AsksById .getOne s (k.read client s) := by
  unfold AsksById
  split
  · rename_i id hid
    exact calls_read hid
  · rename_i hid
    rw [read_of_missingId hid]
    exact ⟨rfl, rfl⟩

theorem asksById_delete : k.AsksById .delete s (k.delete client s) := by
  unfold AsksById
  split
  · rename_i id hid
    exact calls_delete hid
  · rename_i hid
    rw [delete_of_missingId hid]
    exact ⟨rfl, rfl⟩

theorem disciplined_perform (k : ResourceKind) (s : ResourceState) (operation : Operation) :
    k.Disciplined ⟨operation, s, k.perform s operation⟩ := by
  cases operation with
  | create client format freshId =>
    rw [Disciplined, perform, create_eq]
    exact storesMapped_update
  | read client => exact asksById_read
  | update client format => exact storesMapped_update
  | delete client => exact asksById_delete
  | assign name value => rfl

theorem StoresMapped.length_le {calls : List Call} (h : k.StoresMapped format s calls) :
    calls.length ≤ 1 := by
  cases h with
  | nothing => exact Nat.zero_le 1
  | put => exact Nat.le_refl 1

theorem AsksById.calls_eq {request : (id path : String) → Call} {outcome : Outcome}
    (h : k.AsksById request s outcome) :
    outcome.calls = [] ∨ ∃ id, outcome.calls = [request id k.path] := by
  unfold AsksById at h
  split at h
  · exact .inr ⟨_, h⟩
  · exact .inl h.1

theorem AsksById.length_le {request : (id path : String) → Call} {outcome : Outcome}
    (h : k.AsksById request s outcome) : outcome.calls.length ≤ 1 := by
  rcases h.calls_eq with h | ⟨id, h⟩
  · rw [h]
    exact Nat.zero_le 1
  · rw [h]
    exact Nat.le_refl 1

theorem Disciplined.length_le {event : Event} (h : k.Disciplined event) :
    event.outcome.calls.length ≤ 1 := by
  obtain ⟨operation, before, outcome⟩ := event
  cases operation with
  | create => exact StoresMapped.length_le h
  | read => exact AsksById.length_le h
  | update => exact StoresMapped.length_le h
  | delete => exact AsksById.length_le h
  | assign =>
    rw [show outcome.calls = [] from h]
    exact Nat.zero_le 1

/-- However a run goes on, each of its operations makes at most one request, and the one that its
state calls for: storing puts the valid object of the state, reading and deleting ask for its
id. -/
theorem run_disciplined (k : ResourceKind) (s : ResourceState) (operations : List Operation) :
    ∀ event ∈ k.run s operations, event.outcome.calls.length ≤ 1 ∧ k.Disciplined event := by
  induction operations generalizing s with
  | nil =>
    intro event h
    cases h
  | cons operation rest ih =>
    intro event h
    obtain rfl | h := List.mem_cons.mp h
    · have hd := disciplined_perform k s operation
      exact ⟨hd.length_le, hd⟩
    · exact ih _ event h

def lostIdRun : List Operation :=
  [.create .unreachable ⟨"", ""⟩ "fresh", .read .echo, .delete .echo]

theorem run_disciplined_lostId :
    ((alertingChannel .email).run opsState.clearId lostIdRun).map (·.outcome.calls.length) =
      [1, 1, 0] ∧
    ∃ event ∈ (alertingChannel .email).run opsState.clearId lostIdRun,
      event.outcome.calls = [.getOne "fresh" (alertingChannel .email).path] ∧
      event.outcome.calls.length ≤ 1 ∧ (alertingChannel .email).Disciplined event := by
  have hdisciplined := run_disciplined (alertingChannel .email) opsState.clearId lostIdRun
  rw [lostIdRun, run, run] at hdisciplined ⊢
  exact ⟨rfl, _, .tail _ (.head _), rfl, hdisciplined _ (.tail _ (.head _))⟩

end ResourceKind

end Monitoring
