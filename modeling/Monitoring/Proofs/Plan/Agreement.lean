import Monitoring.Plan
import Monitoring.Proofs.MatchSpecification.Validity
import Monitoring.Proofs.Resource.Changes
import Monitoring.Proofs.Resource.Conformance
import Monitoring.Proofs.Resource.Sending

namespace Monitoring

inductive ResourceError.Mirrors : ResourceError → ResourceError → Prop
  | parse (e : ParseError) : Mirrors (.parse e) (.parse e)
  | mapping (e : MappingError) : Mirrors (.mapping e) (.mapping e)
  | state (e : StateError) : Mirrors (.state e) (.state e)
  | validation (e : ValidationError) : Mirrors (.validation e) (.remote (.validation e))

section Mapping

variable {s : ResourceState} {format : NameFormat} {e : ResourceError}

theorem ResourceError.mirrors_of_state {α : Type} {x : Except StateError α}
    (h : x.mapError .state = .error e) : e.Mirrors e := by
  obtain ⟨e, -, rfl⟩ := Result.mapError_eq_error_iff.mp h
  exact .state e

theorem ApplicationConfig.mirrors_of_specificationOf {text : String}
    (h : specificationOf text = .error e) : e.Mirrors e := by
  obtain h | ⟨expression, -, h⟩ := Result.bind_eq_error_iff.mp h
  · obtain ⟨e, -, rfl⟩ := Result.mapError_eq_error_iff.mp h
    exact .parse e
  · obtain ⟨e, -, rfl⟩ := Result.mapError_eq_error_iff.mp h
    exact .mapping e

theorem ApplicationConfig.mirrors_of_ofState (h : ofState s format = .error e) :
    e.Mirrors e := by
  obtain h | ⟨label, -, h⟩ := Result.bind_eq_error_iff.mp h
  · exact ResourceError.mirrors_of_state h
  obtain h | ⟨text, -, h⟩ := Result.bind_eq_error_iff.mp h
  · exact ResourceError.mirrors_of_state h
  obtain h | ⟨specification, -, h⟩ := Result.bind_eq_error_iff.mp h
  · exact mirrors_of_specificationOf h
  obtain h | ⟨scope, -, h⟩ := Result.bind_eq_error_iff.mp h
  · exact ResourceError.mirrors_of_state h
  obtain h | ⟨boundaryScope, -, h⟩ := Result.bind_eq_error_iff.mp h
  · exact ResourceError.mirrors_of_state h
  · cases h

theorem ResourceKind.mirrors_of_toObject {k : ResourceKind}
    (h : k.toObject s format = .error e) : e.Mirrors e := by
  cases k with
  | alertingChannel kind =>
    exact ResourceError.mirrors_of_state (Result.map_eq_error_iff.mp h)
  | alertingConfiguration =>
    exact ResourceError.mirrors_of_state (Result.map_eq_error_iff.mp h)
  | applicationConfig =>
    exact ApplicationConfig.mirrors_of_ofState (Result.map_eq_error_iff.mp h)

end Mapping

namespace Plan

open Expression (failingCalls failingCallsSpecification)

variable {k : ResourceKind} {s : ResourceState} {format : NameFormat} {address : String}
variable {o : StoredObject}

theorem planState_of_unmapped {e : ResourceError} (h : k.toObject s format = .error e) :
    planState format address k s = .error e := by
  rw [planState, h]
  rfl

theorem planState_of_invalid {e : ValidationError} (ho : k.toObject s format = .ok o)
    (hv : o.validate = .error e) : planState format address k s = .error (.validation e) := by
  rw [planState, ho, Result.ok_bind, hv]
  rfl

theorem planState_of_stored {stored : ResourceState} (ho : k.toObject s format = .ok o)
    (hv : o.validate = .ok ()) (hs : k.store o s = (stored, .ok ())) :
    planState format address k s = .ok ⟨address, o.path, o.payload, stored.commit⟩ := by
  rw [planState, ho, Result.ok_bind, hv, ResourceKind.updateState_eq_ok_iff.mpr hs]
  rfl

theorem create_agrees_planState {client : Client} {id : String} (address freshId : String)
    (format : NameFormat) (he : client.Echoes) (hs : k.Conforms s) (hid : s.id = some id)
    (hd : ∀ o, k.toObject s format = .ok o → o.payload.depth ≤ Json.maxNesting) :
    ((∃ p, planState format address k s = .ok p) ↔
      (k.create client format freshId s).result = .ok ()) ∧
    (∀ p, planState format address k s = .ok p →
      (k.create client format freshId s).calls = [.put id p.payload p.path] ∧
      (k.create client format freshId s).state = p.state ∧ p.state.id = some id ∧
      p.state.prior = p.state.attributes ∧ ∀ name, p.state.hasChange name = false) ∧
    ∀ e, planState format address k s = .error e →
      ∃ e', e.Mirrors e' ∧ k.create client format freshId s = ⟨[], s, .error e'⟩ := by
  have hcreate : k.create client format freshId s = k.update client format s := by
    rw [ResourceKind.create_eq, hid, Option.getD_some, ← hid]
  rw [hcreate]
  cases ho : k.toObject s format with
  | error e =>
    rw [planState_of_unmapped ho, ResourceKind.update_of_unmapped ho]
    refine ⟨⟨nofun, nofun⟩, nofun, fun e' h => ?_⟩
    cases h
    exact ⟨e, ResourceKind.mirrors_of_toObject ho, rfl⟩
  | ok o =>
    obtain ⟨-, hoid⟩ := ResourceKind.kind_id_of_toObject ho
    rw [hid, Option.getD_some] at hoid
    cases hv : o.validate with
    | error e =>
      rw [planState_of_invalid ho hv, ResourceKind.update_of_invalid ho hv]
      refine ⟨⟨nofun, nofun⟩, nofun, fun e' h => ?_⟩
      cases h
      exact ⟨_, .validation e, rfl⟩
    | ok _ =>
      obtain ⟨stored, hstore, hupdate⟩ :=
        ResourceKind.exists_update_of_echoes he ho hv (hd o ho)
      have hstoredId := ResourceKind.id_of_store hstore
      have htextual : stored.IsTextual := by
        have h := ResourceKind.isTextual_store (k := k) (o := o) hs.isTextual
        rwa [hstore] at h
      rw [hoid] at hupdate hstoredId
      rw [planState_of_stored ho hv hstore, hupdate]
      refine ⟨⟨fun _ => rfl, fun _ => ⟨_, rfl⟩⟩, fun p h => ?_, nofun⟩
      cases h
      exact ⟨rfl, rfl, hstoredId, rfl, htextual.hasChange_commit⟩

def checkedShopState (text : String) : ResourceState :=
  ((ApplicationConfig.shopState text).set "scope" (.string ApplicationConfig.defaultScope)).set
    "boundary_scope" (.string ApplicationConfig.defaultBoundaryScope)

theorem conforms_checkedShopState (text : String) :
    ResourceKind.applicationConfig.Conforms (checkedShopState text) :=
  ⟨ApplicationConfig.shopState text, checkedShopState text, rfl, rfl⟩

theorem toObject_checkedShopState {text : String} {m : MatchSpecification}
    (h : ApplicationConfig.specificationOf text = .ok m) :
    ResourceKind.applicationConfig.toObject (checkedShopState text) ⟨"", ""⟩ =
      .ok (.applicationConfig (.shopConfig m)) := by
  have hl : NameFormat.fullName ⟨"", ""⟩ (checkedShopState text) "label" "full_label" =
      .ok "shop" := rfl
  have ht : (checkedShopState text).requiredString "match_specification" = .ok text := rfl
  rw [ResourceKind.toObject, ApplicationConfig.ofState, hl, ht]
  simp only [Result.mapError_ok, Result.ok_bind, h]
  rfl

theorem create_agrees_failingCalls :
    ResourceKind.applicationConfig.Conforms (checkedShopState failingCalls.render) ∧
    ∃ p, planState ⟨"", ""⟩ "application.shop" .applicationConfig
        (checkedShopState failingCalls.render) = .ok p ∧
      p.payload = (StoredObject.applicationConfig (.shopConfig failingCallsSpecification)).payload ∧
      (ResourceKind.applicationConfig.create .echo ⟨"", ""⟩ "fresh"
        (checkedShopState failingCalls.render)).calls = [.put "shop" p.payload p.path] ∧
      (ResourceKind.applicationConfig.create .echo ⟨"", ""⟩ "fresh"
        (checkedShopState failingCalls.render)).state = p.state := by
  have hw : failingCalls.WellFormed := by decide
  have hp := Expression.parse_render_of_height_le hw (by decide)
  have hm := Expression.toSpecification_failingCalls
  have ho := toObject_checkedShopState
    (ApplicationConfig.specificationOf_eq_ok_iff.mpr ⟨failingCalls, hp, hm⟩)
  have hvalid := ApplicationConfig.validate_shopConfig (hw.toSpecification hm).validate
  have hconforms := conforms_checkedShopState failingCalls.render
  have hd : ∀ o, ResourceKind.applicationConfig.toObject (checkedShopState failingCalls.render)
      ⟨"", ""⟩ = .ok o → o.payload.depth ≤ Json.maxNesting := by
    intro o h
    rw [ho] at h
    cases h
    decide
  obtain ⟨-, hsame, -⟩ := create_agrees_planState "application.shop" "fresh" ⟨"", ""⟩
    Client.echoes_echo hconforms rfl hd
  obtain ⟨stored, hstore⟩ := StoredObject.exists_store
    (o := .applicationConfig (.shopConfig failingCallsSpecification)) hvalid
    (checkedShopState failingCalls.render)
  have hplan : planState ⟨"", ""⟩ "application.shop" .applicationConfig
      (checkedShopState failingCalls.render) = .ok _ := planState_of_stored ho hvalid hstore
  obtain ⟨hcalls, hstate, -⟩ := hsame _ hplan
  exact ⟨hconforms, _, hplan, rfl, hcalls, hstate⟩

end Plan

end Monitoring
