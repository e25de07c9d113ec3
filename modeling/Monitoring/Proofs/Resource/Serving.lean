import Monitoring.Proofs.Remote.Admission
import Monitoring.Proofs.Resource.Run

namespace Monitoring

namespace Collection

variable {α : Type} [Storable α] {payload : Json} {o found : α}

def Carries (body : ByteArray) (payload : Json) : Prop := ∀ j, Holds body j → j = payload

theorem carries_text (hi : payload.Legible) (hc : payload.IsCanonical) (y : Json.Layout) :
    Carries (payload.text y).toUTF8 payload := by
  intro j h
  exact ((holds_text_iff hi hc y).mp h).2

theorem eq_of_answer (hd : Storable.ofJson? payload = some o) {body : ByteArray}
    (hb : Carries body payload) (h : answer (objectOfBody α) (.ok body) = .ok found) :
    found = o := by
  obtain ⟨body', j, hbody, hj, -, hfound, -⟩ := ((follows_object α _).admitted found).mp h
  cases hbody
  rw [hb j hj, hd] at hfound
  exact (Option.some.inj hfound).symm

end Collection

open Collection (Carries)

/-- What an API that holds one object, or none, holds after a request. It answers with what it
stores or holds. If storing fails, the object may have been stored or not. -/
inductive Client.Serves (client : Client) (held : Option Json) : List Call → Option Json → Prop
  | nothing : Serves client held [] held
  | stored {id path : String} {payload : Json} {body : ByteArray}
    (h : client.put id payload path = .ok body) (hb : Carries body payload) :
    Serves client held [.put id payload path] (some payload)
  | lost {id path : String} {payload : Json} {e : TransportError}
    (h : client.put id payload path = .error e) :
    Serves client held [.put id payload path] (some payload)
  | refused {id path : String} {payload : Json} {e : TransportError}
    (h : client.put id payload path = .error e) : Serves client held [.put id payload path] held
  | found {id path : String} {payload : Json} {body : ByteArray}
    (h : client.getOne id path = .ok body) (hheld : held = some payload)
    (hb : Carries body payload) : Serves client held [.getOne id path] held
  | missed {id path : String} {e : TransportError} (h : client.getOne id path = .error e) :
    Serves client held [.getOne id path] held
  | deleted {id path : String} : Serves client held [.delete id path] held

def Operation.client? : Operation → Option Client
  | create client _ _ => some client
  | read client => some client
  | update client _ => some client
  | delete client => some client
  | assign _ _ => none

def Event.Served (held : Option Json) (event : Event) (next : Option Json) : Prop :=
  match event.operation.client? with
  | some client => client.Serves held event.outcome.calls next
  | none => next = held

inductive Served : Option Json → List Event → Prop
  | nil {held : Option Json} : Served held []
  | cons {held next : Option Json} {event : Event} {rest : List Event}
    (h : event.Served held next) (hrest : Served next rest) : Served held (event :: rest)

theorem Client.Serves.next_eq {client : Client} {held next : Option Json} {calls : List Call}
    (h : client.Serves held calls next) (hputs : ∀ id payload path, .put id payload path ∉ calls) :
    next = held := by
  cases h with
  | nothing => rfl
  | stored => exact absurd (.head _) (hputs _ _ _)
  | lost => exact absurd (.head _) (hputs _ _ _)
  | refused => rfl
  | found => rfl
  | missed => rfl
  | deleted => rfl

namespace StoredObject

variable {o found : StoredObject}

theorem eq_of_receive {body : ByteArray} (hb : Carries body o.payload)
    (h : o.kind.receive (.ok body) = .ok found) : found = o := by
  cases o with
  | alertingChannel c =>
    obtain ⟨x, hx, rfl⟩ := Result.map_eq_ok_iff.mp h
    rw [Collection.eq_of_answer c.ofJson?_canonical hb hx]
  | alertingConfiguration c =>
    obtain ⟨x, hx, rfl⟩ := Result.map_eq_ok_iff.mp h
    rw [Collection.eq_of_answer c.ofJson?_canonical hb hx]
  | applicationConfig c =>
    obtain ⟨x, hx, rfl⟩ := Result.map_eq_ok_iff.mp h
    rw [Collection.eq_of_answer c.ofJson?_sortedFields hb hx]

end StoredObject

structure Client.Forgetful (client : Client) : Prop where
  put : ∀ id (o : StoredObject) path, (∃ e, client.put id o.payload path = .error e) ∨
    ∃ y : Json.Layout, client.put id o.payload path = .ok (o.payload.text y).toUTF8
  getOne : ∀ id path, ∃ e, client.getOne id path = .error e

theorem StoredObject.carries_payload (o : StoredObject) (y : Json.Layout) :
    Carries (o.payload.text y).toUTF8 o.payload := by
  cases o with
  | alertingChannel c =>
    exact Collection.carries_text c.legible_toJson.canonical (Json.isCanonical_canonical _) y
  | alertingConfiguration c =>
    exact Collection.carries_text c.legible_toJson.canonical (Json.isCanonical_canonical _) y
  | applicationConfig c =>
    exact Collection.carries_text c.legible_toJson.canonical (Json.isCanonical_canonical _) y

section Forgetful

variable {client : Client} {k : ResourceKind} {s : ResourceState} {held : Option Json}

theorem Client.Forgetful.serves_stores (hc : client.Forgetful) {format : NameFormat}
    {calls : List Call} (h : k.StoresMapped format s calls) :
    ∃ next, client.Serves held calls next := by
  cases h with
  | nothing h => exact ⟨held, .nothing⟩
  | @put o id ho hv hs hid hblank =>
    rcases hc.put id o k.path with ⟨e, he⟩ | ⟨y, hy⟩
    · exact ⟨held, .refused he⟩
    · exact ⟨some o.payload, .stored hy (o.carries_payload y)⟩

theorem ResourceKind.AsksById.serves {request : (id path : String) → Call} {outcome : Outcome}
    (h : k.AsksById request s outcome) (hr : ∀ id, client.Serves held [request id k.path] held) :
    client.Serves held outcome.calls held := by
  rcases h.calls_eq with h | ⟨id, h⟩
  · rw [h]
    exact .nothing
  · rw [h]
    exact hr id

theorem Served.of_forgetful {operations : List Operation}
    (h : ∀ operation ∈ operations, ∀ client, operation.client? = some client →
      client.Forgetful) : Served held (k.run s operations) := by
  induction operations generalizing s held with
  | nil => exact .nil
  | cons operation rest ih =>
    obtain ⟨hfirst, hrest⟩ := List.forall_mem_cons.mp h
    suffices hserved : ∃ next, Event.Served held ⟨operation, s, k.perform s operation⟩ next by
      obtain ⟨next, hserved⟩ := hserved
      exact .cons hserved (ih hrest)
    have hd := ResourceKind.disciplined_perform k s operation
    cases operation with
    | create client format freshId => exact (hfirst client rfl).serves_stores hd
    | read client =>
      refine ⟨held, ResourceKind.AsksById.serves hd fun id => ?_⟩
      obtain ⟨e, he⟩ := (hfirst client rfl).getOne id k.path
      exact .missed he
    | update client format => exact (hfirst client rfl).serves_stores hd
    | delete client => exact ⟨held, ResourceKind.AsksById.serves hd fun id => .deleted⟩
    | assign name value => exact ⟨held, rfl⟩

end Forgetful

end Monitoring
