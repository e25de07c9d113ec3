import Monitoring.Proofs.Plan.Reporting
import Monitoring.Proofs.Resource.Conformance
import Monitoring.Proofs.Resource.Renaming

namespace Monitoring

namespace ConfigurationLayer

variable {layer result : ConfigurationLayer} {attributes : List (String × Term)}

structure Of (layer : ConfigurationLayer) (provider : Option Body) : Prop where
  namePrefix : layer.namePrefix.map Term.text =
    provider.bind fun b => b.attributes.reverse.lookup prefixKey
  nameSuffix : layer.nameSuffix.map Term.text =
    provider.bind fun b => b.attributes.reverse.lookup suffixKey

theorem lookup_reverse_cons (key name : String) (t : Term) (rest : List (String × Term)) :
    ((name, t) :: rest).reverse.lookup key =
      (rest.reverse.lookup key).or (if key = name then some t else none) := by
  rw [List.reverse_cons, List.lookup_append, Lookup.lookup_cons_eq_ite, List.lookup_nil]

theorem lookup_of_addAttributes (h : addAttributes layer attributes = .ok result) :
    result.namePrefix.map Term.text =
        (attributes.reverse.lookup prefixKey).or (layer.namePrefix.map Term.text) ∧
      result.nameSuffix.map Term.text =
        (attributes.reverse.lookup suffixKey).or (layer.nameSuffix.map Term.text) := by
  have hne : prefixKey ≠ suffixKey := by decide
  induction attributes generalizing layer with
  | nil =>
    cases h
    exact ⟨rfl, rfl⟩
  | cons first rest ih =>
    obtain ⟨name, t⟩ := first
    rw [lookup_reverse_cons, lookup_reverse_cons, Option.or_assoc, Option.or_assoc]
    unfold addAttributes at h
    split at h
    · rename_i hopening
      subst hopening
      split at h
      · rw [if_pos rfl, if_neg hne.symm]
        exact ih h
      · cases h
    · rename_i hopening
      split at h
      · rename_i hending
        subst hending
        split at h
        · rw [if_pos rfl, if_neg hne]
          exact ih h
        · cases h
      · rename_i hending
        rw [if_neg (Ne.symm hopening), if_neg (Ne.symm hending)]
        exact ih h

theorem of_ofProvider {provider : Body} (h : ofProvider provider = .ok layer) :
    layer.Of (some provider) := by
  obtain ⟨hopening, hending⟩ := lookup_of_addAttributes h
  rw [unset, Option.map_none, Option.or_none] at hopening hending
  exact ⟨hopening, hending⟩

end ConfigurationLayer

namespace ResourceKind

theorem default_eq_none (k : ResourceKind) :
    ∀ f ∈ k.schema, f.name = k.nameField ∨ f.name = k.fullNameField → f.default = none :=
  forall_of_all (by decide) k

theorem presence_fullNameField (k : ResourceKind) :
    ∀ f ∈ k.schema, f.name = k.fullNameField → f.presence = .computed :=
  forall_of_all (by decide) k

theorem id_notMem_names (k : ResourceKind) : "id" ∉ k.schema.map Field.name :=
  forall_of_all (by decide) k

theorem nameField_ne_id (k : ResourceKind) : k.nameField ≠ "id" := by
  intro h
  have hmem : k.nameField ∈ k.schema.map Field.name := by
    rw [names_schema]
    exact List.mem_cons_self
  exact k.id_notMem_names (h ▸ hmem)

variable {k : ResourceKind} {s conformed stored : ResourceState} {o : StoredObject}
variable {format : NameFormat} {name : String}

theorem get?_of_conform (h : k.schema.conform s = (conformed, .ok ()))
    (hname : name = k.nameField ∨ name = k.fullNameField) : conformed.get? name = s.get? name := by
  obtain ⟨defaults, rfl, hdefaults⟩ := Schema.exists_assign_of_conform h
  apply ResourceState.get?_assign_of_notMem
  intro hmem
  obtain ⟨f, hf, rfl, hdefault⟩ := hdefaults name hmem
  exact hdefault (k.default_eq_none f hf hname)

theorem get?_fullNameField_of_conform (h : k.schema.conform s = (conformed, .ok ())) :
    conformed.get? k.fullNameField = none := by
  rw [get?_of_conform h (.inr rfl)]
  refine Option.eq_none_iff_forall_ne_some.mpr fun value hvalue => ?_
  obtain ⟨f, hf, hname, hpresence⟩ := Schema.exists_field_of_conform h hvalue
  exact hpresence (k.presence_fullNameField f hf hname)

theorem name_of_toObject {given : String} (h : k.toObject s format = .ok o)
    (hgiven : s.get? k.nameField = some (.string given)) (habsent : s.get? k.fullNameField = none) :
    o.name = format.format given := by
  have hname := fullName_of_toObject h
  rw [NameFormat.fullName_of_absent hgiven habsent] at hname
  exact (Except.ok.inj hname).symm

def Knows (k : ResourceKind) (s : ResourceState) : Prop :=
  ∀ name ∈ s.attributes.names, name ∈ k.schema.map Field.name

theorem Knows.setId (h : k.Knows s) (id : String) : k.Knows (s.setId id) := h

theorem knows_of_conform (h : k.schema.conform s = (conformed, .ok ())) : k.Knows conformed := by
  intro name hname
  obtain ⟨value, hvalue⟩ := Attributes.exists_get?_of_mem_names hname
  obtain ⟨defaults, rfl, hdefaults⟩ := Schema.exists_assign_of_conform h
  by_cases hmem : name ∈ defaults.map Prod.fst
  · obtain ⟨f, hf, rfl, -⟩ := hdefaults name hmem
    exact List.mem_map_of_mem hf
  · have hget : s.get? name = some value :=
      (ResourceState.get?_assign_of_notMem hmem).symm.trans hvalue
    obtain ⟨f, hf, rfl, -⟩ := Schema.exists_field_of_conform h hget
    exact List.mem_map_of_mem hf

theorem Knows.store (hs : k.Knows s) (h : k.store o s = (stored, .ok ())) : k.Knows stored := by
  obtain ⟨rfl, changes, hw, rfl⟩ := store_eq_ok_iff.mp h
  intro name hname
  obtain ⟨value, hvalue⟩ := Attributes.exists_get?_of_mem_names hname
  by_cases hmem : name ∈ changes.map Prod.fst
  · rw [hw.names] at hmem
    rw [names_schema]
    exact List.mem_cons_of_mem _ hmem
  · have hget : s.get? name = some value :=
      (ResourceState.get?_assign_of_notMem (s := s.setId o.id) hmem).symm.trans hvalue
    exact hs name (Attributes.mem_names_of_get? hget)

end ResourceKind

structure Settled (c : Configuration) (freshId : String) (k : ResourceKind)
    (configured : ResourceState) (r : PlannedResource) : Prop where
  valid : ∃ o : StoredObject, o.kind = k ∧ o.validate = .ok () ∧ r.payload = o.payload ∧
    r.path = o.path
  id : ∃ id, r.state.id = some id ∧ r.payload.field? "id" = some (.string id) ∧
    (configured.get? "id" = some (.string id) ∨ configured.get? "id" = none ∧ id = freshId)
  name : ∃ given, configured.get? k.nameField = some (.string given) ∧
    r.payload.field? k.nameKey = some (.string (c.namePrefix ++ given ++ c.nameSuffix)) ∧
    r.state.get? k.fullNameField = some (.string (c.namePrefix ++ given ++ c.nameSuffix))
  known : ∀ name ∈ r.state.attributes.names, name ∈ k.schema.map Field.name ∧ name ≠ "id"
  unchanged : ∀ name, r.state.hasChange name = false

namespace Plan

open RootBlock (Provides Declares)

variable {sources : List Source} {base : Configuration} {override : ConfigurationLayer}
variable {freshId : Nat → String}

theorem settled_of_planResource {c : Configuration} {freshId : String} {d : Declaration}
    {r : PlannedResource} (h : planResource c.nameFormat freshId d = .ok r) :
    ∃ configured, d.body.toState = .ok configured ∧ Settled c freshId d.kind configured r := by
  obtain ⟨configured, pinned, conformed, hconfigured, hpinned, hconform, h⟩ :=
    planResource_eq_ok_iff.mp h
  obtain ⟨o, stored, ho, hvalid, hstore, rfl⟩ := planState_eq_ok_iff.mp h
  obtain ⟨hkind, hid⟩ := ResourceKind.kind_id_of_toObject ho
  have hstoredId := ResourceKind.id_of_store hstore
  rw [ResourceState.setId, Option.getD_some] at hid
  refine ⟨configured, hconfigured, ?_, ?_, ?_, ?_, ?_⟩
  · exact ⟨o, hkind, hvalid, rfl, rfl⟩
  · refine ⟨o.id, hstoredId, o.field?_id_payload, ?_⟩
    rw [ResourceState.get?_of_string? hpinned, hid]
    cases pinned with
    | none => exact .inr ⟨rfl, rfl⟩
    | some id => exact .inl rfl
  · obtain ⟨given, hgiven⟩ :=
      NameFormat.exists_given_of_fullName (ResourceKind.fullName_of_toObject ho)
    have habsent := ResourceKind.get?_fullNameField_of_conform hconform
    have hname : o.name = c.namePrefix ++ given ++ c.nameSuffix :=
      ResourceKind.name_of_toObject ho hgiven habsent
    have hconfiguredName : configured.get? d.kind.nameField = some (.string given) := by
      have hget : conformed.get? d.kind.nameField = some (.string given) := hgiven
      rw [ResourceKind.get?_of_conform hconform (.inl rfl)] at hget
      rw [← hget]
      exact ((configured.get?_setOptional "id" none _).trans (if_neg d.kind.nameField_ne_id)).symm
    refine ⟨given, hconfiguredName, ?_, ?_⟩
    · rw [← hname, ← hkind]
      exact ResourceKind.field?_nameKey_payload o
    · have hfull := ResourceKind.get?_fullNameField_of_store hstore
      rwa [hname] at hfull
  · intro name hname
    have hconformed := ResourceKind.knows_of_conform hconform
    have hstored := ResourceKind.Knows.store (hconformed.setId _) hstore
    have hknown := hstored name hname
    exact ⟨hknown, fun h => d.kind.id_notMem_names (h ▸ hknown)⟩
  · have hconforms : d.kind.Conforms (conformed.setId (pinned.getD freshId)) :=
      ⟨_, conformed, hconform, rfl⟩
    have htextual := ResourceKind.isTextual_store (k := d.kind) (o := o) hconforms.isTextual
    rw [hstore] at htextual
    exact htextual.hasChange_commit

theorem layer_of_configured {provider : Option Body} {c : Configuration}
    (h : configured base provider.toList = .ok c) :
    ∃ layer, ConfigurationLayer.Of layer provider ∧ c = base.apply layer := by
  cases provider with
  | none =>
    cases h
    exact ⟨.unset, ⟨rfl, rfl⟩, rfl⟩
  | some body =>
    obtain ⟨layer, hlayer, rfl⟩ := Result.map_eq_ok_iff.mp h
    have hbody := Result.mapError_eq_ok_iff.mp hlayer
    exact ⟨layer, ConfigurationLayer.of_ofProvider hbody, rfl⟩

/-- The configuration of a plan is set up from the options, the provider block and the base, each
for what those before it leave open, and every planned resource is settled under it. -/
theorem make_settles {plan : Plan} (h : make sources base override freshId = .ok plan) :
    (∃ provider layer,
      Gathers (fun _ b body => b.Provides ∧ b.body = body) [] (rootBlocks sources)
        (Option.toList provider) ∧
      ConfigurationLayer.Of layer provider ∧
      plan.configuration.namePrefix =
        override.namePrefix.getD (layer.namePrefix.getD base.namePrefix) ∧
      plan.configuration.nameSuffix =
        override.nameSuffix.getD (layer.nameSuffix.getD base.nameSuffix)) ∧
    ∃ ds, Gathers (fun _ => Declares) [] (rootBlocks sources) ds ∧
      List.Forall₂ (fun d r => ∃ configured, d.1.body.toState = .ok configured ∧
        Settled plan.configuration (freshId d.2) d.1.kind configured r) ds.zipIdx
        plan.resources := by
  obtain ⟨hsound, c, hc, hconfiguration, hresources⟩ := make_eq_ok_iff.mp h
  constructor
  · obtain ⟨provider, hprovider⟩ := exists_provider hsound
    rw [hprovider] at hc
    obtain ⟨layer, hlayer, rfl⟩ := layer_of_configured hc
    refine ⟨provider, layer, gathers_provides_iff.mpr hprovider.symm, hlayer, ?_, ?_⟩
    · rw [hconfiguration]
      rfl
    · rw [hconfiguration]
      rfl
  · refine ⟨declarations sources, gathers_declares_iff.mpr rfl, ?_⟩
    exact (planResources_eq_ok_iff.mp hresources).imp fun _ _ => settled_of_planResource

def layeredDocuments : List Source :=
  [⟨none, [.block "provider" ["instana"]
      [.attribute "default_name_prefix" (.text "[prod] "),
       .attribute "default_name_suffix" (.text "?")],
    .block "resource" ["instana_alerting_channel_email", "ops"]
      [.attribute "id" (.text "channel-1"), .attribute "name" (.text "ops"),
       .attribute "emails" (.list [.text "a@b.c"])]]⟩]

theorem make_settles_layeredDocuments :
    ∃ plan r configured, make layeredDocuments .base ⟨none, some "!"⟩ toString = .ok plan ∧
      plan.configuration = ⟨"[prod] ", "!"⟩ ∧ plan.resources = [r] ∧
      configured.get? "id" = some (.string "channel-1") ∧
      Settled plan.configuration "0" (.alertingChannel .email) configured r := by
  obtain ⟨plan, hplan⟩ :
    ∃ plan, make layeredDocuments .base ⟨none, some "!"⟩ toString = .ok plan := ⟨_, rfl⟩
  obtain ⟨⟨provider, layer, hprovider, hlayer, hopening, hending⟩, ds, hds, hresources⟩ :=
    make_settles hplan
  have hbody : provider.toList = providers layeredDocuments := gathers_provides_iff.mp hprovider
  have hd : ds = declarations layeredDocuments := gathers_declares_iff.mp hds
  subst hd
  obtain ⟨r, rest, ⟨configured, hconfigured, hsettled⟩, hrest, hr⟩ :=
    List.forall₂_cons_left_iff.mp hresources
  obtain rfl := List.forall₂_nil_left_iff.mp hrest
  refine ⟨plan, r, configured, hplan, ?_, hr, ?_, hsettled⟩
  · obtain ⟨body, rfl⟩ : ∃ body, provider = some body := by
      cases provider with
      | none => cases hbody
      | some body => exact ⟨body, rfl⟩
    cases hbody
    obtain ⟨_, hlayerOpening, h⟩ := Option.map_eq_some_iff.mp hlayer.namePrefix
    cases h
    rw [hlayerOpening] at hopening
    exact congrArg₂ Configuration.mk hopening hending
  · cases hconfigured
    rfl

end Plan

end Monitoring
