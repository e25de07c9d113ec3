import Monitoring.Proofs.Plan.Survey

namespace Monitoring.Plan

variable {sources : List Source} {base : Configuration} {override : ConfigurationLayer}
variable {freshId : Nat → String} {format : NameFormat} {index : Nat}

def configured (base : Configuration) : List Body → Except PlanError Configuration
  | [] => .ok base
  | provider :: _ =>
    ((ConfigurationLayer.ofProvider provider).mapError .configuration).map base.apply

theorem make_of_issues (h : (survey sources).issues ≠ []) :
    make sources base override freshId = .error (.issues (survey sources).issues) := by
  have hissues : (!(survey sources).issues.isEmpty) = true := by
    rw [Bool.not_eq_true', List.isEmpty_eq_false_iff]
    exact h
  unfold make
  simp only [hissues, if_true]
  rfl

theorem make_of_sound (h : (survey sources).issues = []) :
    make sources base override freshId = (do
      let c ← configured base (providers sources)
      let resources ←
        planResources (c.apply override).nameFormat freshId 0 (declarations sources)
      return ⟨c.apply override, resources⟩) := by
  have hissues : (!(survey sources).issues.isEmpty) = false := by rw [h]; rfl
  unfold make
  simp only [hissues, providers_survey, (declarations_survey h).1]
  cases providers sources with
  | nil => rfl
  | cons provider rest => rfl

theorem planState_eq_ok_iff {address : String} {k : ResourceKind} {s : ResourceState}
    {r : PlannedResource} :
    planState format address k s = .ok r ↔ ∃ o stored, k.toObject s format = .ok o ∧
      o.validate = .ok () ∧ k.store o s = (stored, .ok ()) ∧
      r = ⟨address, o.path, o.payload, stored.commit⟩ := by
  rw [planState, Result.bind_eq_ok_iff]
  constructor
  · rintro ⟨o, ho, h⟩
    obtain ⟨hvalid, h⟩ := Result.then_eq_ok_iff.mp h
    obtain ⟨stored, hstore, h⟩ := Result.bind_eq_ok_iff.mp h
    cases h
    exact ⟨o, stored, ho, Result.mapError_eq_ok_iff.mp hvalid,
      ResourceKind.updateState_eq_ok_iff.mp hstore, rfl⟩
  · rintro ⟨o, stored, ho, hvalid, hstore, rfl⟩
    refine ⟨o, ho, Result.then_eq_ok_iff.mpr ⟨Result.mapError_eq_ok_iff.mpr hvalid, ?_⟩⟩
    exact Result.bind_eq_ok_iff.mpr ⟨stored, ResourceKind.updateState_eq_ok_iff.mpr hstore, rfl⟩

theorem planResource_eq_ok_iff {freshId : String} {d : Declaration} {r : PlannedResource} :
    planResource format freshId d = .ok r ↔ ∃ evaluated pinned conformed,
      d.body.toState = .ok evaluated ∧ evaluated.string? "id" = .ok pinned ∧
      d.kind.schema.conform (evaluated.remove "id") = (conformed, .ok ()) ∧
      planState format d.address d.kind (conformed.setId (pinned.getD freshId)) = .ok r := by
  rw [planResource, Result.bind_eq_ok_iff]
  constructor
  · rintro ⟨evaluated, hevaluated, h⟩
    obtain ⟨pinned, hpinned, h⟩ := Result.bind_eq_ok_iff.mp h
    obtain ⟨hchecked, hplan⟩ := Result.then_eq_ok_iff.mp h
    exact ⟨evaluated, pinned, _, Result.mapError_eq_ok_iff.mp hevaluated,
      Result.mapError_eq_ok_iff.mp hpinned,
      Prod.ext rfl (Result.mapError_eq_ok_iff.mp hchecked), hplan⟩
  · rintro ⟨evaluated, pinned, conformed, hevaluated, hpinned, hconform, hplan⟩
    refine ⟨evaluated, Result.mapError_eq_ok_iff.mpr hevaluated, ?_⟩
    refine Result.bind_eq_ok_iff.mpr ⟨pinned, Result.mapError_eq_ok_iff.mpr hpinned, ?_⟩
    rw [hconform]
    exact Result.then_eq_ok_iff.mpr ⟨rfl, hplan⟩

theorem address_of_planResource {freshId : String} {d : Declaration} {r : PlannedResource}
    (h : planResource format freshId d = .ok r) : r.address = d.address := by
  obtain ⟨_, _, _, -, -, -, h⟩ := planResource_eq_ok_iff.mp h
  obtain ⟨_, _, -, -, -, rfl⟩ := planState_eq_ok_iff.mp h
  rfl

theorem planResources_eq_ok_iff {ds : List Declaration} {rs : List PlannedResource} :
    planResources format freshId index ds = .ok rs ↔
      List.Forall₂ (fun d r => planResource format (freshId d.2) d.1 = .ok r)
        (ds.zipIdx index) rs := by
  induction ds generalizing index rs with
  | nil =>
    rw [List.zipIdx_nil, List.forall₂_nil_left_iff]
    exact ⟨fun h => (Except.ok.inj h).symm, fun h => congrArg Except.ok h.symm⟩
  | cons d rest ih =>
    rw [List.zipIdx_cons, List.forall₂_cons_left_iff, planResources, Result.bind_eq_ok_iff]
    constructor
    · rintro ⟨r, hr, h⟩
      obtain ⟨others, hothers, h⟩ := Result.bind_eq_ok_iff.mp h
      cases h
      exact ⟨r, others, Result.mapError_eq_ok_iff.mp hr, ih.mp hothers, rfl⟩
    · rintro ⟨r, others, hr, hothers, rfl⟩
      exact ⟨r, Result.mapError_eq_ok_iff.mpr hr,
        Result.bind_eq_ok_iff.mpr ⟨others, ih.mpr hothers, rfl⟩⟩

theorem planResources_eq_error_iff {ds : List Declaration} {e : PlanError} :
    planResources format freshId index ds = .error e ↔
      ∃ before bad behind cause, ds = before ++ bad :: behind ∧
        (∀ d ∈ before.zipIdx index, ∃ r, planResource format (freshId d.2) d.1 = .ok r) ∧
        planResource format (freshId (index + before.length)) bad = .error cause ∧
        e = .resource bad.address cause := by
  induction ds generalizing index with
  | nil =>
    refine ⟨nofun, ?_⟩
    rintro ⟨before, bad, behind, cause, h, -⟩
    cases before <;> cases h
  | cons d rest ih =>
    rw [planResources, Result.bind_eq_error_iff]
    constructor
    · rintro (hd | ⟨r, hd, h⟩)
      · obtain ⟨cause, hcause, rfl⟩ := Result.mapError_eq_error_iff.mp hd
        exact ⟨[], d, rest, cause, rfl, nofun, hcause, rfl⟩
      · obtain h | ⟨_, -, h⟩ := Result.bind_eq_error_iff.mp h
        · obtain ⟨before, bad, behind, cause, rfl, hbefore, hbad, rfl⟩ := ih.mp h
          refine ⟨d :: before, bad, behind, cause, rfl, ?_, ?_, rfl⟩
          · rw [List.zipIdx_cons]
            exact List.forall_mem_cons.mpr ⟨⟨r, Result.mapError_eq_ok_iff.mp hd⟩, hbefore⟩
          · rw [List.length_cons, Nat.add_comm before.length, ← Nat.add_assoc]
            exact hbad
        · cases h
    · rintro ⟨before, bad, behind, cause, h, hbefore, hbad, rfl⟩
      cases before with
      | nil =>
        cases h
        exact .inl (Result.mapError_eq_error_iff.mpr ⟨cause, hbad, rfl⟩)
      | cons first others =>
        cases h
        rw [List.zipIdx_cons] at hbefore
        obtain ⟨⟨r, hfirst⟩, hothers⟩ := List.forall_mem_cons.mp hbefore
        rw [List.length_cons, Nat.add_comm others.length, ← Nat.add_assoc] at hbad
        have hrest := ih.mpr ⟨others, bad, behind, cause, rfl, hothers, hbad, rfl⟩
        exact .inr ⟨r, Result.mapError_eq_ok_iff.mpr hfirst,
          Result.bind_eq_error_iff.mpr (.inl hrest)⟩

theorem cause_of_configured {bodies : List Body} {e : PlanError}
    (h : configured base bodies = .error e) : ∃ cause, e = .configuration cause := by
  cases bodies with
  | nil => cases h
  | cons provider rest =>
    obtain ⟨cause, -, rfl⟩ := Result.mapError_eq_error_iff.mp (Result.map_eq_error_iff.mp h)
    exact ⟨cause, rfl⟩

theorem make_eq_issues_iff {issues : List Issue} :
    make sources base override freshId = .error (.issues issues) ↔
      issues ≠ [] ∧ issues = (survey sources).issues := by
  by_cases hissues : (survey sources).issues = []
  · refine ⟨fun h => ?_, fun h => absurd (h.2.trans hissues) h.1⟩
    rw [make_of_sound hissues] at h
    obtain h | ⟨c, -, h⟩ := Result.bind_eq_error_iff.mp h
    · obtain ⟨cause, h⟩ := cause_of_configured h
      cases h
    obtain h | ⟨rs, -, h⟩ := Result.bind_eq_error_iff.mp h
    · obtain ⟨_, _, _, _, -, -, -, h⟩ := planResources_eq_error_iff.mp h
      cases h
    · cases h
  · rw [make_of_issues hissues]
    constructor
    · intro h
      cases h
      exact ⟨hissues, rfl⟩
    · rintro ⟨-, rfl⟩
      rfl

theorem make_eq_ok_iff {plan : Plan} :
    make sources base override freshId = .ok plan ↔
      (survey sources).issues = [] ∧ ∃ c, configured base (providers sources) = .ok c ∧
        plan.configuration = c.apply override ∧
        planResources plan.configuration.nameFormat freshId 0 (declarations sources) =
          .ok plan.resources := by
  by_cases hissues : (survey sources).issues = []
  · rw [make_of_sound hissues, Result.bind_eq_ok_iff]
    constructor
    · rintro ⟨c, hc, h⟩
      obtain ⟨rs, hrs, h⟩ := Result.bind_eq_ok_iff.mp h
      cases h
      exact ⟨hissues, c, hc, rfl, hrs⟩
    · rintro ⟨-, c, hc, hplan, hrs⟩
      obtain ⟨configuration, resources⟩ := plan
      obtain rfl : configuration = c.apply override := hplan
      exact ⟨c, hc, Result.bind_eq_ok_iff.mpr ⟨resources, hrs, rfl⟩⟩
  · rw [make_of_issues hissues]
    exact ⟨nofun, fun h => absurd h.1 hissues⟩

theorem make_eq_resource_iff {address : String} {cause : ResourceError} :
    make sources base override freshId = .error (.resource address cause) ↔
      (survey sources).issues = [] ∧ ∃ c, configured base (providers sources) = .ok c ∧
        planResources (c.apply override).nameFormat freshId 0 (declarations sources) =
          .error (.resource address cause) := by
  by_cases hissues : (survey sources).issues = []
  · rw [make_of_sound hissues, Result.bind_eq_error_iff]
    constructor
    · rintro (h | ⟨c, hc, h⟩)
      · obtain ⟨cause, h⟩ := cause_of_configured h
        cases h
      · obtain h | ⟨rs, -, h⟩ := Result.bind_eq_error_iff.mp h
        · exact ⟨hissues, c, hc, h⟩
        · cases h
    · rintro ⟨-, c, hc, h⟩
      exact .inr ⟨c, hc, Result.bind_eq_error_iff.mpr (.inl h)⟩
  · rw [make_of_issues hissues]
    exact ⟨nofun, fun h => absurd h.1 hissues⟩

end Monitoring.Plan
