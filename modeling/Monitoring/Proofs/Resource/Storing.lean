import Monitoring.Proofs.Result
import Monitoring.Proofs.State.Attributes
import Monitoring.Resource.Kind

namespace Monitoring

theorem ResourceKind.mem_all (k : ResourceKind) : k ∈ all := by
  cases k with
  | alertingChannel kind => cases kind <;> decide
  | alertingConfiguration => decide
  | applicationConfig => decide

@[elab_as_elim]
theorem ResourceKind.forall_of_all {P : ResourceKind → Prop} (h : ∀ k ∈ all, P k)
    (k : ResourceKind) : P k := h k k.mem_all

def StoredObject.kind : StoredObject → ResourceKind
  | alertingChannel c => .alertingChannel c.kind
  | alertingConfiguration _ => .alertingConfiguration
  | applicationConfig _ => .applicationConfig

def ResourceKind.path : ResourceKind → String
  | alertingChannel _ => Storable.path AlertingChannel
  | alertingConfiguration => Storable.path AlertingConfiguration
  | applicationConfig => Storable.path ApplicationConfig

theorem StoredObject.path_eq (o : StoredObject) : o.path = o.kind.path := by
  cases o <;> rfl

theorem ApplicationConfig.state_of_store_error {c : ApplicationConfig} {s : ResourceState}
    {e : ResourceError} (h : (c.store s).2 = .error e) : (c.store s).1 = s := by
  unfold store at h ⊢
  split
  · rfl
  · rename_i he
    rw [he] at h
    cases h

namespace ResourceKind

variable {k : ResourceKind} {o : StoredObject} {s t : ResourceState} {e : ResourceError}

theorem updateState_eq_ok_iff : k.updateState s o = .ok t ↔ k.store o s = (t, .ok ()) := by
  rw [updateState, Result.map_eq_ok_iff, Prod.ext_iff]
  exact ⟨fun ⟨_, hr, ht⟩ => ⟨ht, hr⟩, fun ⟨ht, hr⟩ => ⟨(), hr, ht⟩⟩

theorem store_alertingChannel (c : AlertingChannel) (s : ResourceState) :
    (alertingChannel c.kind).store (.alertingChannel c) s = (c.store s, .ok ()) :=
  if_pos rfl

theorem store_of_kind_ne (h : o.kind ≠ k) (s : ResourceState) :
    k.store o s = (s, .error (.kindMismatch k.typeName o.description)) := by
  cases k with
  | alertingChannel kind =>
    cases o with
    | alertingChannel c =>
      have hkind : c.kind ≠ kind := fun hc => h (congrArg alertingChannel hc)
      exact if_neg hkind
    | alertingConfiguration c => rfl
    | applicationConfig c => rfl
  | alertingConfiguration =>
    cases o with
    | alertingChannel c => rfl
    | alertingConfiguration c => exact absurd rfl h
    | applicationConfig c => rfl
  | applicationConfig =>
    cases o with
    | alertingChannel c => rfl
    | alertingConfiguration c => rfl
    | applicationConfig c => exact absurd rfl h

theorem state_of_store_error (h : (k.store o s).2 = .error e) : (k.store o s).1 = s := by
  by_cases hk : o.kind = k
  · subst hk
    cases o with
    | alertingChannel c =>
      rw [StoredObject.kind, store_alertingChannel] at h
      cases h
    | alertingConfiguration c => cases h
    | applicationConfig c => exact ApplicationConfig.state_of_store_error h
  · rw [store_of_kind_ne hk]

end ResourceKind

end Monitoring
