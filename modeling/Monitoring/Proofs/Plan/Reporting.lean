import Monitoring.Proofs.Plan.Structure

namespace Monitoring.Plan

open RootBlock (Problem Provides Foreign Declares outline)

variable {sources sources' : List Source} {base base' : Configuration}
variable {override override' : ConfigurationLayer} {freshId freshId' : Nat → String}

def Reports (sources : List Source) (issues : List Issue) : Prop :=
  ∃ ofBlocks, Gathers Problem [] (rootBlocks sources) ofBlocks ∧
    issues = sources.flatMap rootAttributes ++ ofBlocks ++
      providerIssues ((rootBlocks sources).countP Provides)

theorem reports_iff {issues : List Issue} :
    Reports sources issues ↔ issues = (survey sources).issues := by
  have hgathers : ∀ ofBlocks, Gathers Problem [] (rootBlocks sources) ofBlocks ↔
      ofBlocks = blockIssues (rootBlocks sources) :=
    fun ofBlocks => gathers_iff fun _ _ _ => RootBlock.issue?_eq_some_iff
  rw [issues_survey, length_providers]
  constructor
  · rintro ⟨ofBlocks, h, rfl⟩
    rw [(hgathers ofBlocks).mp h]
  · rintro rfl
    exact ⟨_, (hgathers _).mpr rfl, rfl⟩

theorem gathers_declares_iff {ds : List Declaration} :
    Gathers (fun _ => Declares) [] (rootBlocks sources) ds ↔ ds = declarations sources := by
  rw [gathers_iff fun _ _ _ => RootBlock.declaration?_eq_some_iff, gather_const]
  rfl

theorem gathers_provides_iff {bodies : List Body} :
    Gathers (fun _ b body => b.Provides ∧ b.body = body) [] (rootBlocks sources) bodies ↔
      bodies = providers sources := by
  rw [gathers_iff fun _ _ _ => RootBlock.provider?_eq_some_iff, gather_const]
  rfl

section Outline

theorem gather_map {β : Type} {find : List RootBlock → RootBlock → Option β}
    {f : RootBlock → RootBlock} (h : ∀ earlier b, find (earlier.map f) (f b) = find earlier b)
    (earlier blocks : List RootBlock) :
    gather find (earlier.map f) (blocks.map f) = gather find earlier blocks := by
  induction blocks generalizing earlier with
  | nil => rfl
  | cons b rest ih =>
    have hrest := ih (earlier ++ [b])
    rw [List.map_append] at hrest
    rw [List.map_cons, gather, gather, h]
    exact congrArg _ hrest

theorem blockIssues_outline (blocks : List RootBlock) :
    blockIssues (blocks.map outline) = blockIssues blocks := by
  refine gather_map (fun earlier b => ?_) [] blocks
  apply Option.ext
  intro i
  rw [RootBlock.issue?_eq_some_iff, RootBlock.issue?_eq_some_iff, RootBlock.Problem.outline_iff]

theorem countP_outline (blocks : List RootBlock) :
    (blocks.map outline).countP Provides = blocks.countP Provides := by
  rw [List.countP_map]
  rfl

theorem issues_survey_congr
    (hattributes : sources.flatMap rootAttributes = sources'.flatMap rootAttributes)
    (hblocks : (rootBlocks sources).map outline = (rootBlocks sources').map outline) :
    (survey sources).issues = (survey sources').issues := by
  rw [issues_survey, issues_survey, length_providers, length_providers, hattributes,
    ← blockIssues_outline, hblocks, blockIssues_outline, ← countP_outline, hblocks, countP_outline]

end Outline

section Foreign

variable {s : Source} {before behind : List Source} {front back : Body}
variable {type : String} {labels : List String} {body : Body}

theorem survey_congr
    (hattributes : sources.flatMap rootAttributes = sources'.flatMap rootAttributes)
    (hblocks : ∀ s : Survey, (rootBlocks sources).foldl Survey.add s =
      (rootBlocks sources').foldl Survey.add s) : survey sources = survey sources' := by
  unfold survey
  simp only [Survey.foldl_addSource, hattributes, hblocks]

theorem make_congr (h : survey sources = survey sources') :
    make sources base override freshId = make sources' base override freshId := by
  unfold make
  rw [h]

theorem rootAttributes_passing (hbody : s.body = front ++ .block type labels body :: back) :
    rootAttributes { s with body := front ++ back } = rootAttributes s := by
  unfold rootAttributes Body.attributes
  rw [hbody, List.filterMap_append, List.filterMap_append, List.filterMap_cons]
  rfl

theorem blocks_passing (hbody : s.body = front ++ .block type labels body :: back) :
    s.blocks = front.filterMap (Structure.rootBlock? s.name) ++
      ⟨s.name, type, labels, body⟩ :: back.filterMap (Structure.rootBlock? s.name) := by
  unfold Source.blocks
  rw [hbody, List.filterMap_append, List.filterMap_cons]
  rfl

theorem Survey.add_of_foreign {b : RootBlock} (h : b.Foreign) (s : Survey) : s.add b = s := by
  rw [Survey.add, (RootBlock.Plays.foreign h).role_eq]

theorem make_passing (hbody : s.body = front ++ .block type labels body :: back)
    (h : Foreign ⟨s.name, type, labels, body⟩) :
    make (before ++ { s with body := front ++ back } :: behind) base override freshId =
      make (before ++ s :: behind) base override freshId := by
  refine make_congr (survey_congr ?_ fun survey => ?_)
  · rw [List.flatMap_append, List.flatMap_append, List.flatMap_cons, List.flatMap_cons,
      rootAttributes_passing hbody]
  · unfold rootBlocks
    have hblocks : Source.blocks { s with body := front ++ back } =
        front.filterMap (Structure.rootBlock? s.name) ++
          back.filterMap (Structure.rootBlock? s.name) := List.filterMap_append
    rw [List.flatMap_append, List.flatMap_append, List.flatMap_cons, List.flatMap_cons, hblocks,
      blocks_passing hbody]
    simp only [List.foldl_append, List.foldl_cons, Survey.add_of_foreign h]

end Foreign

theorem addresses_of_planResources {format : NameFormat} {index : Nat} {ds : List Declaration}
    {rs : List PlannedResource} (h : planResources format freshId index ds = .ok rs) :
    rs.map PlannedResource.address = ds.map Declaration.address := by
  have haddresses := (planResources_eq_ok_iff.mp h).imp fun _ _ => address_of_planResource
  have hds : ds.map Declaration.address =
      (ds.zipIdx index).map (Declaration.address ∘ Prod.fst) := by
    rw [← List.map_map, List.zipIdx_map_fst]
  rw [hds, ← List.forall₂_eq_eq_eq, List.forall₂_map_left_iff, List.forall₂_map_right_iff]
  exact haddresses.flip

inductive Fails (sources : List Source) (base : Configuration) (override : ConfigurationLayer)
    (freshId : Nat → String) : String → ResourceError → Prop
  | resource {c : Configuration} {before behind : List Declaration} {bad : Declaration}
    {cause : ResourceError} (hc : configured base (providers sources) = .ok c)
    (hblocks : Gathers (fun _ => Declares) [] (rootBlocks sources) (before ++ bad :: behind))
    (hbefore : ∀ d ∈ before.zipIdx, ∃ r,
      planResource (c.apply override).nameFormat (freshId d.2) d.1 = .ok r)
    (hbad : planResource (c.apply override).nameFormat (freshId before.length) bad = .error cause) :
    Fails sources base override freshId bad.address cause

theorem make_eq_resource_iff_fails {address : String} {cause : ResourceError} :
    make sources base override freshId = .error (.resource address cause) ↔
      ¬Flawed sources ∧ Fails sources base override freshId address cause := by
  rw [make_eq_resource_iff, ← issues_ne_nil_iff, Decidable.not_not]
  refine and_congr_right fun _ => ?_
  constructor
  · rintro ⟨c, hc, h⟩
    obtain ⟨before, bad, behind, cause', hds, hbefore, hbad, h⟩ := planResources_eq_error_iff.mp h
    cases h
    rw [Nat.zero_add] at hbad
    exact .resource hc (gathers_declares_iff.mpr hds.symm) hbefore hbad
  · rintro ⟨hc, hblocks, hbefore, hbad⟩
    rw [← Nat.zero_add (List.length _)] at hbad
    refine ⟨_, hc, planResources_eq_error_iff.mpr ?_⟩
    exact ⟨_, _, _, _, (gathers_declares_iff.mp hblocks).symm, hbefore, hbad, rfl⟩

theorem make_eq_issues_iff_reports {issues : List Issue} :
    make sources base override freshId = .error (.issues issues) ↔
      Flawed sources ∧ Reports sources issues := by
  rw [make_eq_issues_iff, reports_iff, ← issues_ne_nil_iff]
  refine and_congr_left fun h => ?_
  rw [h]

theorem exists_issues_iff :
    (∃ issues, make sources base override freshId = .error (.issues issues)) ↔ Flawed sources := by
  simp only [make_eq_issues_iff_reports]
  exact ⟨fun ⟨_, h, _⟩ => h, fun h => ⟨_, h, reports_iff.mpr rfl⟩⟩

/-- Every problem of structure is reported, once and in its place, whatever the bodies contain.
Without problems, exactly the resources of supported types are planned, in their order, or the first
that fails is named; foreign blocks do not count. -/
theorem make_accounts_for_blocks (sources : List Source) (base : Configuration)
    (override : ConfigurationLayer) (freshId : Nat → String) :
    ((∃ issues, make sources base override freshId = .error (.issues issues)) ↔ Flawed sources) ∧
    (∀ issues, make sources base override freshId = .error (.issues issues) ↔
      Flawed sources ∧ Reports sources issues) ∧
    (∀ sources' base' override' freshId' issues,
      sources.flatMap rootAttributes = sources'.flatMap rootAttributes →
      (rootBlocks sources).map outline = (rootBlocks sources').map outline →
      make sources base override freshId = .error (.issues issues) →
      make sources' base' override' freshId' = .error (.issues issues)) ∧
    (∀ plan, make sources base override freshId = .ok plan →
      ∃ ds, Gathers (fun _ => Declares) [] (rootBlocks sources) ds ∧
        plan.resources.map PlannedResource.address = ds.map Declaration.address ∧
        (plan.resources.map PlannedResource.address).Nodup) ∧
    (∀ before s behind front type labels body back, sources = before ++ s :: behind →
      s.body = front ++ .block type labels body :: back → Foreign ⟨s.name, type, labels, body⟩ →
      make (before ++ { s with body := front ++ back } :: behind) base override freshId =
        make sources base override freshId) ∧
    ∀ address cause, make sources base override freshId = .error (.resource address cause) ↔
      ¬Flawed sources ∧ Fails sources base override freshId address cause := by
  refine ⟨exists_issues_iff, fun _ => make_eq_issues_iff_reports, ?_, ?_, ?_,
    fun _ _ => make_eq_resource_iff_fails⟩
  · intro sources' base' override' freshId' issues hattributes hblocks h
    rw [make_eq_issues_iff, issues_survey_congr hattributes hblocks] at h
    exact make_eq_issues_iff.mpr h
  · intro plan h
    obtain ⟨hsound, c, -, -, hresources⟩ := make_eq_ok_iff.mp h
    have haddresses := addresses_of_planResources hresources
    refine ⟨declarations sources, gathers_declares_iff.mpr rfl, haddresses, ?_⟩
    rw [haddresses]
    exact (declarations_survey hsound).2
  · rintro before s behind front type labels body back rfl hbody hforeign
    exact make_passing hbody hforeign

section Example

def opsBody : Body := [.attribute "name" (.text "ops"), .attribute "emails" (.list [.text "a@b.c"])]

def opsBlock (body : Body) : Structure :=
  .block "resource" ["instana_alerting_channel_email", "ops"] body

def devBlock (body : Body) : Structure :=
  .block "resource" ["instana_alerting_channel_email", "dev"] body

def strayDocuments (body : Body) : List Source :=
  [⟨some "main.tf", [.attribute "stray" .null,
    .block "resource" ["instana_alerting_channel_email"] body,
    .block "provider" ["instana"] body, .block "resource" ["instana_dashboard", "d"] body]⟩,
   ⟨some "more.tf", [opsBlock body, opsBlock [], .block "resource" ["aws_instance", "web"] body,
    .block "provider" ["instana"] []]⟩]

def strayIssues : List Issue :=
  [.rootAttribute "main.tf" "stray", .resourceLabels "main.tf" 1,
   .unknownResourceType "main.tf" "instana_dashboard",
   .duplicateAddress "more.tf" "instana_alerting_channel_email.ops", .duplicateProvider 2]

theorem make_accounts_for_strayDocuments :
    (∀ body, make (strayDocuments body) .base .unset toString = .error (.issues strayIssues)) ∧
    (∃ plan, make [⟨none, [opsBlock opsBody]⟩] .base .unset toString = .ok plan ∧
      plan.resources.map PlannedResource.address = ["instana_alerting_channel_email.ops"]) ∧
    make [⟨none, [opsBlock opsBody, devBlock []]⟩] .base .unset toString =
      .error (.resource "instana_alerting_channel_email.dev"
        (.state (.missingAttribute "name"))) ∧
    make [⟨none, [opsBlock opsBody]⟩] .base .unset toString =
      make [⟨none, [opsBlock opsBody, .block "terraform" [] []]⟩] .base .unset toString := by
  have hsound : ∀ {sources : List Source}, (survey sources).issues = [] → ¬Flawed sources := by
    intro sources h
    rwa [← issues_ne_nil_iff, Decidable.not_not]
  refine ⟨fun body => ?_, ?_, ?_, ?_⟩
  · obtain ⟨-, hreports, hbodies, -⟩ :=
      make_accounts_for_blocks (strayDocuments []) .base .unset toString
    have hflawed : Flawed (strayDocuments []) := issues_ne_nil_iff.mp (by decide)
    have hissues : Reports (strayDocuments []) strayIssues := reports_iff.mpr (by decide)
    have hempty := (hreports strayIssues).mpr ⟨hflawed, hissues⟩
    exact hbodies _ _ _ _ _ rfl rfl hempty
  · obtain ⟨-, -, -, hplanned, -⟩ :=
      make_accounts_for_blocks [⟨none, [opsBlock opsBody]⟩] .base .unset toString
    obtain ⟨plan, hplan⟩ : ∃ plan,
      make [⟨none, [opsBlock opsBody]⟩] .base .unset toString = .ok plan := ⟨_, rfl⟩
    obtain ⟨ds, hds, haddresses, -⟩ := hplanned plan hplan
    rw [gathers_declares_iff.mp hds] at haddresses
    exact ⟨plan, hplan, haddresses⟩
  · obtain ⟨-, -, -, -, -, hfails⟩ := make_accounts_for_blocks
      [⟨none, [opsBlock opsBody, devBlock []]⟩] .base .unset toString
    refine (hfails _ _).mpr ⟨hsound (by decide), ?_⟩
    have hdeclared : declarations [⟨none, [opsBlock opsBody, devBlock []]⟩] =
        [⟨"instana_alerting_channel_email.ops", .alertingChannel .email, opsBody⟩] ++
          [⟨"instana_alerting_channel_email.dev", .alertingChannel .email, []⟩] := rfl
    have hblocks := gathers_declares_iff.mpr hdeclared.symm
    have hdev : planResource (Configuration.base.apply .unset).nameFormat (toString 1)
        ⟨"instana_alerting_channel_email.dev", .alertingChannel .email, []⟩ =
          .error (.state (.missingAttribute "name")) := rfl
    have hops : ∃ r, planResource (Configuration.base.apply .unset).nameFormat (toString 0)
        ⟨"instana_alerting_channel_email.ops", .alertingChannel .email, opsBody⟩ = .ok r := ⟨_, rfl⟩
    refine .resource (c := .base) rfl hblocks ?_ hdev
    exact List.forall_mem_singleton.mpr hops
  · obtain ⟨-, -, -, -, hpassing, -⟩ := make_accounts_for_blocks
      [⟨none, [opsBlock opsBody, .block "terraform" [] []]⟩] .base .unset toString
    have hforeign : Foreign ⟨"<stdin>", "terraform", [], []⟩ :=
      .block (by decide) fun h => absurd h.1 (by decide)
    exact hpassing [] ⟨none, [opsBlock opsBody, .block "terraform" [] []]⟩ [] [opsBlock opsBody]
      "terraform" [] [] [] rfl rfl hforeign

end Example

end Monitoring.Plan
