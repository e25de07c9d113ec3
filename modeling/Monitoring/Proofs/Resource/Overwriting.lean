import Monitoring.Proofs.Resource.Changes
import Monitoring.Proofs.State.Rewriting

namespace Monitoring

theorem StoredObject.Writes.rewritten {o : StoredObject}
    {changes : List (String × Option AttributeValue)} (hw : o.Writes changes) (s : ResourceState) :
    ResourceState.Rewritten o.kind.storedFields s ((s.setId o.id).assign changes) := by
  obtain ⟨hothers, hprior, horder⟩ :=
    ResourceState.rewritten_assign (s := s.setId o.id) hw.nodup
  rw [← hw.names]
  exact ⟨hothers, hprior, horder⟩

namespace ResourceKind

variable {k : ResourceKind} {o : StoredObject} {s₁ s₂ t₁ : ResourceState}

open ResourceState in
/-- What one state accepts every state accepts, and the results agree on the id and on all
attributes that the kind manages: those are as the object has them, so that what it leaves out is
gone. In each of the two states nothing else changes, not even the order of what is kept. -/
theorem updateState_overwrites (h : k.updateState s₁ o = .ok t₁) (s₂ : ResourceState) :
    ∃ t₂, k.updateState s₂ o = .ok t₂ ∧ t₁.id = some o.id ∧ t₂.id = some o.id ∧
      (∀ name ∈ k.storedFields, t₁.get? name = t₂.get? name) ∧
      (∃ changes, o.Writes changes ∧ changes.map Prod.fst = k.storedFields ∧
        t₁.Shows changes ∧ t₂.Shows changes) ∧
      Rewritten k.storedFields s₁ t₁ ∧ Rewritten k.storedFields s₂ t₂ ∧
      t₁.get? k.nameField = s₁.get? k.nameField ∧ t₂.get? k.nameField = s₂.get? k.nameField := by
  obtain ⟨rfl, changes, hw, rfl⟩ := store_eq_ok_iff.mp (updateState_eq_ok_iff.mp h)
  have h₂ : o.kind.updateState s₂ o = .ok ((s₂.setId o.id).assign changes) :=
    updateState_eq_ok_iff.mpr (store_eq_ok_iff.mpr ⟨rfl, changes, hw, rfl⟩)
  have hshows (s : ResourceState) : ((s.setId o.id).assign changes).Shows changes :=
    shows_assign hw.nodup
  have hname : o.kind.nameField ∉ o.kind.storedFields :=
    (List.nodup_cons.mp o.kind.nodup_names_schema).1
  refine ⟨_, h₂, id_assign _ changes, id_assign _ changes, fun name hmanaged => ?_,
    ⟨changes, hw, hw.names, hshows s₁, hshows s₂⟩, hw.rewritten s₁, hw.rewritten s₂,
    (hw.rewritten s₁).others _ hname, (hw.rewritten s₂).others _ hname⟩
  rw [← hw.names] at hmanaged
  exact (hshows s₁).get?_eq (hshows s₂) hmanaged

def memoryAlert : AlertingConfiguration := ⟨"memory", "prod memory", ["ops"], ⟨none, ["leak"], []⟩⟩

def staleAlert : ResourceState :=
  (((ResourceState.empty.set "event_filter_query" (.string "zone")).set "note" (.string "old")).set
    "event_filter_event_types" (.strings ["offline"])).set "alert_name" (.string "memory")

theorem updateState_overwrites_staleAlert :
    ∃ t₁ t₂,
      alertingConfiguration.updateState staleAlert (.alertingConfiguration memoryAlert) = .ok t₁ ∧
      alertingConfiguration.updateState .empty (.alertingConfiguration memoryAlert) = .ok t₂ ∧
      (∀ name ∈ alertingConfiguration.storedFields, t₁.get? name = t₂.get? name) ∧
      t₁.names =
        ["note", "alert_name", "full_alert_name", "integration_ids", "event_filter_rule_ids"] := by
  obtain ⟨t₁, h₁⟩ : ∃ t₁, alertingConfiguration.updateState staleAlert
      (.alertingConfiguration memoryAlert) = .ok t₁ := ⟨_, rfl⟩
  obtain ⟨t₂, h₂, -, -, hagree, -⟩ := updateState_overwrites h₁ .empty
  refine ⟨t₁, t₂, h₁, h₂, hagree, ?_⟩
  cases h₁
  decide

end ResourceKind

end Monitoring
