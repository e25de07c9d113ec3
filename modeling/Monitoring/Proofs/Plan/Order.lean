import Mathlib.Data.List.Perm.Basic
import Monitoring.Proofs.Plan.Reporting
import Monitoring.Proofs.Resource.Identifiers
import Monitoring.Uuid

/-!
Documents in another order. What is wrong with them, the one provider block and the resources stay
the same; only the ids that are made up for resources may differ.
-/

namespace Monitoring

namespace Uuid

theorem isBlank_ofBytes {bytes : List UInt8} (h : bytes ≠ []) :
    Text.isBlank (ofBytes bytes) = false := by
  have hdigit : ∀ n < 16, Text.isBlankChar (Nat.digitChar n) = false := by decide
  cases bytes with
  | nil => exact absurd rfl h
  | cons byte rest =>
    have hbyte : (mark 0 byte).toNat / 16 < 16 := by
      have := (mark 0 byte).toNat_lt
      omega
    have hchars : (ofBytes (byte :: rest)).toList = Nat.digitChar ((mark 0 byte).toNat / 16) ::
        Nat.digitChar ((mark 0 byte).toNat % 16) :: chars 1 (rest.take 15) := by
      rw [ofBytes, String.toList_ofList]
      rfl
    rw [Text.isBlank, hchars, List.all_cons, hdigit _ hbyte, Bool.false_and]

end Uuid

namespace Plan

variable {sources sources' : List Source} {base : Configuration} {override : ConfigurationLayer}
variable {freshId freshId' : Nat → String} {format : NameFormat} {index : Nat}

section Structure

def Repeats (e b : RootBlock) : Prop :=
  (∃ d, b.Declares d) ∧ e.type = b.type ∧ e.labels = b.labels

theorem Repeats.symm {e b : RootBlock} (h : Repeats e b) : Repeats b e := by
  obtain ⟨⟨d, hd⟩, htype, hlabels⟩ := h
  exact ⟨⟨_, hd.congr htype hlabels⟩, htype.symm, hlabels.symm⟩

theorem exists_repeats_iff {blocks : List RootBlock} :
    (∃ before b behind, blocks = before ++ b :: behind ∧ ∃ e ∈ before, Repeats e b) ↔
      ¬blocks.Pairwise fun e b => ¬Repeats e b := by
  constructor
  · rintro ⟨before, b, behind, rfl, e, he, h⟩ hpairwise
    exact (List.pairwise_append.mp hpairwise).2.2 e he b List.mem_cons_self h
  · intro h
    obtain ⟨e, b, hsublist, hrepeats⟩ : ∃ e b, [e, b].Sublist blocks ∧ Repeats e b := by
      by_contra hnone
      refine h (List.pairwise_iff_forall_sublist.mpr fun hsublist hrepeats => ?_)
      exact hnone ⟨_, _, hsublist, hrepeats⟩
    obtain ⟨before, behind, rfl, he, hb⟩ := List.cons_sublist_iff.mp hsublist
    obtain ⟨between, rest, rfl⟩ := List.append_of_mem (List.singleton_sublist.mp hb)
    refine ⟨before ++ between, b, rest, (List.append_assoc ..).symm, e, ?_, hrepeats⟩
    exact List.mem_append_left between he

theorem rootBlocks_perm (h : sources.Perm sources') :
    (rootBlocks sources).Perm (rootBlocks sources') := h.flatMap_right Source.blocks

theorem Flawed.perm (h : sources.Perm sources') (hf : Flawed sources) : Flawed sources' := by
  have hblocks := rootBlocks_perm h
  cases hf with
  | rootAttribute hs hattributes => exact .rootAttribute (h.mem_iff.mp hs) hattributes
  | labels hb htype hlabels => exact .labels (hblocks.mem_iff.mp hb) htype hlabels
  | unsupported hb hu htype => exact .unsupported (hblocks.mem_iff.mp hb) hu htype
  | repeated hsplit hd he htype hlabels =>
    have hrepeats := exists_repeats_iff.mp ⟨_, _, _, hsplit, _, he, ⟨_, hd⟩, htype, hlabels⟩
    rw [hblocks.pairwise_iff fun hne hrepeats => hne hrepeats.symm] at hrepeats
    obtain ⟨before, b, behind, hsplit', e, he, ⟨d, hd⟩, htype, hlabels⟩ :=
      exists_repeats_iff.mpr hrepeats
    exact .repeated hsplit' hd he htype hlabels
  | providers hcount =>
    rw [hblocks.countP_eq] at hcount
    exact .providers hcount

theorem flawed_iff_of_perm (h : sources.Perm sources') : Flawed sources ↔ Flawed sources' :=
  ⟨Flawed.perm h, Flawed.perm h.symm⟩

theorem sound_of_perm (h : sources.Perm sources') (hsound : (survey sources).issues = []) :
    (survey sources').issues = [] := by
  by_contra hissues
  exact issues_ne_nil_iff.mpr (Flawed.perm h.symm (issues_ne_nil_iff.mp hissues)) hsound

theorem providers_of_perm (h : sources.Perm sources') (hsound : (survey sources).issues = []) :
    providers sources' = providers sources := by
  obtain ⟨provider, hprovider⟩ := exists_provider hsound
  have hperm : (providers sources).Perm (providers sources') :=
    (rootBlocks_perm h).filterMap RootBlock.provider?
  rw [hprovider] at hperm ⊢
  cases provider with
  | none => exact List.nil_perm.mp hperm
  | some body => exact (List.singleton_perm.mp hperm).symm

theorem declarations_perm (h : sources.Perm sources') :
    (declarations sources).Perm (declarations sources') :=
  (rootBlocks_perm h).filterMap RootBlock.declaration?

end Structure

section Resources

variable {d : Declaration} {ds ds' : List Declaration} {r r' : PlannedResource}
variable {rs rs' : List PlannedResource}

/-- Two plans of one declaration: they are the same but for an id that was not configured. -/
inductive Agrees (d : Declaration) : PlannedResource → PlannedResource → Prop
  | same {r : PlannedResource} (h : r.address = d.address) : Agrees d r r
  | fresh {configured state : ResourceState} {o : StoredObject} (id : String)
    (hconfigured : d.body.toState = .ok configured) (hid : configured.get? "id" = none) :
    Agrees d ⟨d.address, o.path, o.payload, state⟩
      ⟨d.address, o.path, (o.setId id).payload, state.setId id⟩

theorem exists_agrees {id id' : String} (h : planResource format id d = .ok r)
    (hid' : Text.isBlank id' = false) :
    ∃ r', planResource format id' d = .ok r' ∧ Agrees d r r' := by
  have haddress := address_of_planResource h
  obtain ⟨configured, pinned, conformed, hconfigured, hpinned, hconform, hplan⟩ :=
    planResource_eq_ok_iff.mp h
  have hagain : ∀ {r' : PlannedResource},
      planState format d.address d.kind (conformed.setId (pinned.getD id')) = .ok r' →
        planResource format id' d = .ok r' := fun hplan' =>
    planResource_eq_ok_iff.mpr
      ⟨configured, pinned, conformed, hconfigured, hpinned, hconform, hplan'⟩
  cases pinned with
  | some pinned => exact ⟨r, hagain hplan, .same haddress⟩
  | none =>
    obtain ⟨o, stored, ho, hvalid, hstore, rfl⟩ := planState_eq_ok_iff.mp hplan
    have ho' := ResourceKind.toObject_setId ho id'
    have hvalid' := StoredObject.validate_setId hvalid hid'
    have hstore' := ResourceKind.store_setId hstore id'
    refine ⟨_, hagain (planState_eq_ok_iff.mpr ⟨_, _, ho', hvalid', hstore', rfl⟩), ?_⟩
    rw [StoredObject.path_setId]
    exact .fresh id' hconfigured (ResourceState.get?_of_string? hpinned)

def Plannable (format : NameFormat) (d : Declaration) (r : PlannedResource) : Prop :=
  ∃ id, Text.isBlank id = false ∧ planResource format id d = .ok r

theorem Plannable.agrees (h : Plannable format d r) (h' : Plannable format d r') :
    Agrees d r r' := by
  obtain ⟨id, -, hr⟩ := h
  obtain ⟨id', hid', hr'⟩ := h'
  obtain ⟨r'', hr'', hagrees⟩ := exists_agrees hr hid'
  rw [hr'] at hr''
  cases hr''
  exact hagrees

theorem plannable_of_planResources (hfresh : ∀ i, Text.isBlank (freshId i) = false)
    (h : planResources format freshId index ds = .ok rs) :
    List.Forall₂ (Plannable format) ds rs := by
  have hrs := (planResources_eq_ok_iff.mp h).imp fun (d : Declaration × Nat) r hr =>
    show Plannable format d.1 r from ⟨freshId d.2, hfresh d.2, hr⟩
  rwa [← List.forall₂_map_left_iff, List.zipIdx_map_fst] at hrs

theorem exists_planResources (hfresh : ∀ i, Text.isBlank (freshId i) = false)
    (h : List.Forall₂ (Plannable format) ds rs) (index : Nat) :
    ∃ rs', planResources format freshId index ds = .ok rs' := by
  induction h generalizing index with
  | nil => exact ⟨[], rfl⟩
  | cons hd _ ih =>
    obtain ⟨id, -, hr⟩ := hd
    obtain ⟨r', hr', -⟩ := exists_agrees hr (hfresh index)
    obtain ⟨others, hothers⟩ := ih (index + 1)
    refine ⟨r' :: others, planResources_eq_ok_iff.mpr ?_⟩
    rw [List.zipIdx_cons]
    exact .cons hr' (planResources_eq_ok_iff.mp hothers)

theorem forall₂_agrees (hrs : List.Forall₂ (Plannable format) ds rs)
    (hrs' : List.Forall₂ (Plannable format) ds rs') :
    List.Forall₂ (fun r r' => ∃ d ∈ ds, Agrees d r r') rs rs' := by
  induction hrs generalizing rs' with
  | nil =>
    cases hrs'
    exact .nil
  | cons hr _ ih =>
    obtain _ | ⟨hr', hrest'⟩ := hrs'
    refine .cons ⟨_, List.mem_cons_self, hr.agrees hr'⟩ ((ih hrest').imp ?_)
    rintro r r' ⟨d, hd, h⟩
    exact ⟨d, List.mem_cons_of_mem _ hd, h⟩

end Resources

theorem exists_make_of_perm {plan : Plan} (h : sources.Perm sources')
    (hfresh : ∀ i, Text.isBlank (freshId i) = false)
    (hfresh' : ∀ i, Text.isBlank (freshId' i) = false)
    (hplan : make sources base override freshId = .ok plan) :
    ∃ plan', make sources' base override freshId' = .ok plan' := by
  obtain ⟨hsound, c, hc, hconfiguration, hresources⟩ := make_eq_ok_iff.mp hplan
  have hrs := plannable_of_planResources hfresh hresources
  obtain ⟨rs, hrs, -⟩ := List.perm_comp_forall₂ (declarations_perm h).symm hrs
  obtain ⟨rs', hrs'⟩ := exists_planResources hfresh' hrs 0
  rw [← providers_of_perm h hsound] at hc
  exact ⟨⟨plan.configuration, rs'⟩, make_eq_ok_iff.mpr
    ⟨sound_of_perm h hsound, c, hc, hconfiguration, hrs'⟩⟩

theorem agrees_of_perm {plan plan' : Plan} (h : sources.Perm sources')
    (hfresh : ∀ i, Text.isBlank (freshId i) = false)
    (hfresh' : ∀ i, Text.isBlank (freshId' i) = false)
    (hplan : make sources base override freshId = .ok plan)
    (hplan' : make sources' base override freshId' = .ok plan') :
    plan.configuration = plan'.configuration ∧ ∃ rs, rs.Perm plan'.resources ∧
      List.Forall₂ (fun r r' => ∃ d ∈ declarations sources, Agrees d r r') plan.resources rs := by
  obtain ⟨hsound, c, hc, hconfiguration, hresources⟩ := make_eq_ok_iff.mp hplan
  obtain ⟨-, c', hc', hconfiguration', hresources'⟩ := make_eq_ok_iff.mp hplan'
  rw [providers_of_perm h hsound, hc] at hc'
  cases hc'
  rw [hconfiguration] at hresources
  rw [hconfiguration'] at hresources'
  have hrs := plannable_of_planResources hfresh hresources
  have hrs' := plannable_of_planResources hfresh' hresources'
  obtain ⟨rs, hagain, hperm⟩ := List.perm_comp_forall₂ (declarations_perm h) hrs'
  exact ⟨hconfiguration.trans hconfiguration'.symm, rs, hperm, forall₂_agrees hrs hagain⟩

/-- The order of the documents does not show in whether a plan is made, in the configuration, or in
what is planned for each resource. Made-up ids are never blank, and may differ. -/
theorem make_of_perm (base : Configuration) (override : ConfigurationLayer)
    (h : sources.Perm sources')
    (hfresh : ∀ i, Text.isBlank (freshId i) = false)
    (hfresh' : ∀ i, Text.isBlank (freshId' i) = false) :
    ((∃ plan, make sources base override freshId = .ok plan) ↔
      ∃ plan, make sources' base override freshId' = .ok plan) ∧
    ((∃ issues, make sources base override freshId = .error (.issues issues)) ↔
      ∃ issues, make sources' base override freshId' = .error (.issues issues)) ∧
    ∀ plan plan', make sources base override freshId = .ok plan →
      make sources' base override freshId' = .ok plan' →
      plan.configuration = plan'.configuration ∧
      ∃ rs, rs.Perm plan'.resources ∧
        List.Forall₂ (fun r r' => ∃ d ∈ declarations sources, Agrees d r r') plan.resources rs := by
  refine ⟨⟨?_, ?_⟩, ?_, fun plan plan' => agrees_of_perm h hfresh hfresh'⟩
  · rintro ⟨plan, hplan⟩
    exact exists_make_of_perm h hfresh hfresh' hplan
  · rintro ⟨plan', hplan'⟩
    exact exists_make_of_perm h.symm hfresh' hfresh hplan'
  · rw [exists_issues_iff, exists_issues_iff, flawed_iff_of_perm h]

def opsDocument : Source := ⟨some "ops.tf", [opsBlock opsBody]⟩

def devDocument : Source :=
  ⟨some "dev.tf", [devBlock [.attribute "id" (.text "channel-1"), .attribute "name" (.text "dev"),
    .attribute "emails" (.list [.text "a@b.c"])]]⟩

def repeatedByte (i : Nat) : String := Uuid.ofBytes (List.replicate Uuid.size (.ofNat i))

theorem make_of_perm_opsDocument :
    ∃ plan plan', make [opsDocument, devDocument] .base .unset repeatedByte = .ok plan ∧
      make [devDocument, opsDocument] .base .unset repeatedByte = .ok plan' ∧
      plan.configuration = plan'.configuration ∧
      plan.resources.map PlannedResource.address =
        ["instana_alerting_channel_email.ops", "instana_alerting_channel_email.dev"] ∧
      plan'.resources.map PlannedResource.address =
        ["instana_alerting_channel_email.dev", "instana_alerting_channel_email.ops"] ∧
      ∃ rs, rs.Perm plan'.resources ∧
        List.Forall₂ (fun r r' => ∃ d ∈ declarations [opsDocument, devDocument], Agrees d r r')
          plan.resources rs := by
  have hfresh : ∀ i, Text.isBlank (repeatedByte i) = false :=
    fun i => Uuid.isBlank_ofBytes (List.cons_ne_nil _ _)
  have hperm : [opsDocument, devDocument].Perm [devDocument, opsDocument] := .swap _ _ _
  obtain ⟨hok, -, hagree⟩ := make_of_perm .base .unset hperm hfresh hfresh
  obtain ⟨plan, hplan⟩ : ∃ plan,
    make [opsDocument, devDocument] .base .unset repeatedByte = .ok plan := ⟨_, rfl⟩
  obtain ⟨plan', hplan'⟩ := hok.mp ⟨plan, hplan⟩
  obtain ⟨hconfiguration, hresources⟩ := hagree plan plan' hplan hplan'
  refine ⟨plan, plan', hplan, hplan', hconfiguration, ?_, ?_, hresources⟩
  · cases hplan
    rfl
  · cases hplan'
    rfl

end Plan

end Monitoring
