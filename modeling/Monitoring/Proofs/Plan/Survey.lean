import Mathlib.Data.List.Nodup
import Monitoring.Plan
import Monitoring.Proofs.Resource.Storing

/-!
What a survey of documents finds. Each block at the root of a document has one role, and what is
reported for it depends on its role and on the blocks before it only.
-/

namespace Monitoring

namespace ResourceKind

variable {k : ResourceKind} {type : String}

theorem ofTypeName?_typeName (k : ResourceKind) : ofTypeName? k.typeName = some k :=
  forall_of_all (by decide) k

theorem ofTypeName?_eq_some_iff : ofTypeName? type = some k ↔ type = k.typeName := by
  constructor
  · intro h
    have hname := List.find?_some h
    exact (of_decide_eq_true hname).symm
  · rintro rfl
    exact k.ofTypeName?_typeName

theorem ofTypeName?_eq_none_iff : ofTypeName? type = none ↔ ∀ k : ResourceKind, type ≠ k.typeName := by
  rw [Option.eq_none_iff_forall_ne_some]
  exact forall_congr' fun k => not_congr ofTypeName?_eq_some_iff

end ResourceKind

structure RootBlock where
  file : String
  type : String
  labels : List String
  body : Body

def Structure.rootBlock? (file : String) : Structure → Option RootBlock
  | .attribute .. => none
  | .block type labels body => some ⟨file, type, labels, body⟩

def Source.blocks (s : Source) : List RootBlock := s.body.filterMap (Structure.rootBlock? s.name)

def rootBlocks (sources : List Source) : List RootBlock := sources.flatMap Source.blocks

namespace RootBlock

inductive Role
  | mislabelled
  | unsupported (type : String)
  | declares (d : Declaration)
  | provider
  | foreign

def role (b : RootBlock) : Role :=
  if b.type = "resource" then
    match b.labels with
    | [type, name] =>
      match ResourceKind.ofTypeName? type with
      | some k => .declares ⟨type ++ "." ++ name, k, b.body⟩
      | none => if "instana_".toList <+: type.toList then .unsupported type else .foreign
    | _ => .mislabelled
  else if b.type = "provider" ∧ b.labels.head? = some "instana" then .provider
  else .foreign

def declaration? (b : RootBlock) : Option Declaration :=
  match b.role with
  | .declares d => some d
  | _ => none

def provider? (b : RootBlock) : Option Body :=
  match b.role with
  | .provider => some b.body
  | _ => none

def issue? (earlier : List RootBlock) (b : RootBlock) : Option Issue :=
  match b.role with
  | .mislabelled => some (.resourceLabels b.file b.labels.length)
  | .unsupported type => some (.unknownResourceType b.file type)
  | .declares d =>
    if d.address ∈ (earlier.filterMap declaration?).map Declaration.address then
      some (.duplicateAddress b.file d.address)
    else none
  | _ => none

end RootBlock

namespace Plan

def gather {β : Type} (find : List RootBlock → RootBlock → Option β) (earlier : List RootBlock) :
    List RootBlock → List β
  | [] => []
  | b :: rest => (find earlier b).toList ++ gather find (earlier ++ [b]) rest

def blockIssues (blocks : List RootBlock) : List Issue := gather RootBlock.issue? [] blocks

def providerIssues (count : Nat) : List Issue :=
  if 1 < count then [.duplicateProvider count] else []

section Gather

variable {β : Type} {find : List RootBlock → RootBlock → Option β}

theorem gather_append (earlier before behind : List RootBlock) :
    gather find earlier (before ++ behind) =
      gather find earlier before ++ gather find (earlier ++ before) behind := by
  induction before generalizing earlier with
  | nil => rw [List.nil_append, List.append_nil, gather, List.nil_append]
  | cons b rest ih =>
    rw [List.cons_append, gather, gather, ih, List.append_assoc, List.append_assoc,
      List.singleton_append]

theorem mem_gather_iff {earlier blocks : List RootBlock} {x : β} :
    x ∈ gather find earlier blocks ↔ ∃ before b behind, blocks = before ++ b :: behind ∧
      find (earlier ++ before) b = some x := by
  induction blocks generalizing earlier with
  | nil =>
    refine ⟨nofun, ?_⟩
    rintro ⟨before, b, behind, h, -⟩
    cases before <;> cases h
  | cons first rest ih =>
    rw [gather, List.mem_append, Option.mem_toList, ih]
    constructor
    · rintro (h | ⟨before, b, behind, rfl, h⟩)
      · refine ⟨[], first, rest, rfl, ?_⟩
        rwa [List.append_nil]
      · refine ⟨first :: before, b, behind, rfl, ?_⟩
        rwa [List.append_assoc] at h
    · rintro ⟨before, b, behind, hblocks, h⟩
      cases before with
      | nil =>
        cases hblocks
        rw [List.append_nil] at h
        exact .inl h
      | cons _ others =>
        cases hblocks
        refine .inr ⟨others, b, behind, rfl, ?_⟩
        rwa [List.append_assoc]

theorem gather_const (f : RootBlock → Option β) (earlier blocks : List RootBlock) :
    gather (fun _ => f) earlier blocks = blocks.filterMap f := by
  induction blocks generalizing earlier with
  | nil => rfl
  | cons b rest ih =>
    rw [gather, ih]
    cases h : f b with
    | none => rw [List.filterMap_cons_none h]; rfl
    | some x => rw [List.filterMap_cons_some h]; rfl

end Gather

namespace Survey

variable {s : Survey} {root : List Issue} {earlier : List RootBlock}

def add (s : Survey) (b : RootBlock) : Survey :=
  match b.role with
  | .mislabelled => s.report (.resourceLabels b.file b.labels.length)
  | .unsupported type => s.report (.unknownResourceType b.file type)
  | .declares d =>
    if d.address ∈ s.declarations.map Declaration.address then
      s.report (.duplicateAddress b.file d.address)
    else { s with declarations := s.declarations ++ [d] }
  | .provider => { s with providers := s.providers ++ [b.body] }
  | .foreign => s

theorem any_address_iff {declarations : List Declaration} {address : String} :
    (declarations.any fun d => d.address = address) = true ↔
      address ∈ declarations.map Declaration.address := by
  simp only [List.any_eq_true, decide_eq_true_eq, List.mem_map]

theorem addResource_eq (s : Survey) (file : String) (labels : List String) (body : Body) :
    s.addResource file labels body = s.add ⟨file, "resource", labels, body⟩ := by
  unfold addResource add RootBlock.role
  rw [if_pos rfl]
  split
  · rename_i type name
    obtain hkind | ⟨k, hkind⟩ := (ResourceKind.ofTypeName? type).eq_none_or_eq_some
    · simp only [hkind, List.isPrefixOf_iff_prefix]
      by_cases hprefix : "instana_".toList <+: type.toList
      · simp only [if_pos hprefix]
      · simp only [if_neg hprefix]
    · simp only [hkind, any_address_iff]
  · simp only

theorem addStructure_eq (s : Survey) (file : String) (x : Structure) :
    s.addStructure file x = (x.rootBlock? file).elim s s.add := by
  obtain ⟨name, value⟩ | ⟨type, labels, body⟩ := x
  · rfl
  · rw [Structure.rootBlock?, Option.elim_some, addStructure]
    by_cases hresource : type = "resource"
    · rw [if_pos hresource, hresource, addResource_eq]
    · rw [if_neg hresource, add, RootBlock.role, if_neg hresource]
      by_cases hprovider : type = "provider" ∧ labels.head? = some "instana"
      · simp [hprovider]
      · simp only [Bool.and_eq_true, decide_eq_true_eq, if_neg hprovider]

theorem addSource_eq (s : Survey) (source : Source) :
    s.addSource source = source.blocks.foldl add s := by
  rw [addSource, Source.blocks, List.foldl_filterMap]
  congr
  funext s x
  rw [addStructure_eq]
  cases x.rootBlock? source.name <;> rfl

theorem foldl_addSource (s : Survey) (sources : List Source) :
    sources.foldl addSource s = (rootBlocks sources).foldl add s := by
  induction sources generalizing s with
  | nil => rfl
  | cons source rest ih =>
    rw [List.foldl_cons, ih, addSource_eq, ← List.foldl_append]
    rfl

/-- What a survey knows after some blocks, on top of the issues at the root. -/
structure Covers (s : Survey) (root : List Issue) (blocks : List RootBlock) : Prop where
  providers : s.providers = blocks.filterMap RootBlock.provider?
  issues : s.issues = root ++ blockIssues blocks
  known : ∀ address, address ∈ s.declarations.map Declaration.address ↔
    address ∈ (blocks.filterMap RootBlock.declaration?).map Declaration.address
  distinct : (s.declarations.map Declaration.address).Nodup
  complete : blockIssues blocks = [] → s.declarations = blocks.filterMap RootBlock.declaration?

theorem covers_empty (root : List Issue) : ({ Survey.empty with issues := root }).Covers root [] :=
  ⟨rfl, (List.append_nil root).symm, fun _ => Iff.rfl, List.nodup_nil, fun _ => rfl⟩

theorem filterMap_snoc {α β : Type} (f : α → Option β) (before : List α) (a : α) :
    (before ++ [a]).filterMap f = before.filterMap f ++ (f a).toList := by
  rw [List.filterMap_append]
  cases h : f a with
  | none => rw [List.filterMap_cons_none h]; rfl
  | some b => rw [List.filterMap_cons_some h]; rfl

theorem blockIssues_snoc (earlier : List RootBlock) (b : RootBlock) :
    blockIssues (earlier ++ [b]) = blockIssues earlier ++ (b.issue? earlier).toList := by
  rw [blockIssues, gather_append, List.nil_append, gather, gather, List.append_nil]
  rfl

theorem Covers.report {b : RootBlock} {i : Issue} (h : s.Covers root earlier)
    (hissue : b.issue? earlier = some i) (hprovider : b.provider? = none)
    (hdeclared : ∀ d, b.declaration? = some d →
      d.address ∈ (earlier.filterMap RootBlock.declaration?).map Declaration.address) :
    (s.report i).Covers root (earlier ++ [b]) := by
  obtain ⟨hproviders, hissues, hknown, hdistinct, -⟩ := h
  refine ⟨?_, ?_, ?_, hdistinct, ?_⟩
  · rw [filterMap_snoc, hprovider, Option.toList_none, List.append_nil]
    exact hproviders
  · rw [blockIssues_snoc, hissue, ← List.append_assoc, ← hissues]
    rfl
  · intro address
    refine (hknown address).trans ?_
    rw [filterMap_snoc, List.map_append, List.mem_append]
    refine (or_iff_left_of_imp fun hb => ?_).symm
    obtain ⟨d, hd, rfl⟩ := List.mem_map.mp hb
    exact hdeclared d (Option.mem_toList.mp hd)
  · intro hnil
    rw [blockIssues_snoc, hissue] at hnil
    exact absurd hnil (List.append_ne_nil_of_right_ne_nil _ (List.cons_ne_nil i []))

theorem Covers.extend {b : RootBlock} {t : Survey} (h : s.Covers root earlier)
    (hissue : b.issue? earlier = none) (hproviders : t.providers = s.providers ++ b.provider?.toList)
    (hissues : t.issues = s.issues)
    (hdeclarations : t.declarations = s.declarations ++ b.declaration?.toList)
    (hnew : ∀ d, b.declaration? = some d → d.address ∉ s.declarations.map Declaration.address) :
    t.Covers root (earlier ++ [b]) := by
  have hsnoc : blockIssues (earlier ++ [b]) = blockIssues earlier := by
    rw [blockIssues_snoc, hissue, Option.toList_none, List.append_nil]
  refine ⟨?_, ?_, ?_, ?_, ?_⟩
  · rw [filterMap_snoc, ← h.providers, hproviders]
  · rw [hsnoc, hissues, h.issues]
  · intro address
    rw [hdeclarations, filterMap_snoc, List.map_append, List.map_append, List.mem_append,
      List.mem_append, h.known]
  · rw [hdeclarations, List.map_append]
    cases hd : b.declaration? with
    | none =>
      rw [Option.toList_none, List.map_nil, List.append_nil]
      exact h.distinct
    | some d => exact List.nodup_append_comm.mp (List.nodup_cons.mpr ⟨hnew d hd, h.distinct⟩)
  · intro hnil
    rw [hdeclarations, filterMap_snoc, h.complete (hsnoc.symm.trans hnil)]

theorem Covers.refuse {b : RootBlock} {i : Issue} (h : s.Covers root earlier)
    (hissue : b.issue? earlier = some i) (hprovider : b.provider? = none)
    (hdeclared : b.declaration? = none) : (s.report i).Covers root (earlier ++ [b]) := by
  apply h.report hissue hprovider
  intro d hd
  cases hdeclared.symm.trans hd

theorem Covers.declare {b : RootBlock} {d : Declaration} (h : s.Covers root earlier)
    (hrole : b.role = .declares d) : (s.add b).Covers root (earlier ++ [b]) := by
  have hdeclared : b.declaration? = some d := by rw [RootBlock.declaration?, hrole]
  have hprovider : b.provider? = none := by rw [RootBlock.provider?, hrole]
  simp only [Survey.add, hrole]
  by_cases hd : d.address ∈ s.declarations.map Declaration.address
  · have hearlier := (h.known d.address).mp hd
    rw [if_pos hd]
    apply h.report
    · simp only [RootBlock.issue?, hrole, if_pos hearlier]
    · exact hprovider
    · intro d' hd'
      cases hdeclared.symm.trans hd'
      exact hearlier
  · have hearlier := fun hearlier => hd ((h.known d.address).mpr hearlier)
    rw [if_neg hd]
    apply h.extend
    · simp only [RootBlock.issue?, hrole, if_neg hearlier]
    · rw [hprovider, Option.toList_none, List.append_nil]
    · rfl
    · rw [hdeclared, Option.toList_some]
    · intro d' hd'
      cases hdeclared.symm.trans hd'
      exact hd

theorem Covers.pass {b : RootBlock} (h : s.Covers root earlier)
    (hissue : b.issue? earlier = none) (hdeclared : b.declaration? = none) :
    { s with providers := s.providers ++ b.provider?.toList }.Covers root (earlier ++ [b]) := by
  apply h.extend hissue
  · rfl
  · rfl
  · rw [hdeclared, Option.toList_none, List.append_nil]
  · intro d hd
    cases hdeclared.symm.trans hd

theorem Covers.add (h : s.Covers root earlier) (b : RootBlock) :
    (s.add b).Covers root (earlier ++ [b]) := by
  cases hrole : b.role with
  | mislabelled =>
    rw [Survey.add, hrole]
    apply h.refuse <;> simp only [RootBlock.issue?, RootBlock.provider?, RootBlock.declaration?, hrole]
  | unsupported type =>
    rw [Survey.add, hrole]
    apply h.refuse <;> simp only [RootBlock.issue?, RootBlock.provider?, RootBlock.declaration?, hrole]
  | declares d => exact h.declare hrole
  | provider =>
    have hprovider : b.provider? = some b.body := by rw [RootBlock.provider?, hrole]
    have hpass := h.pass (b := b) (by rw [RootBlock.issue?, hrole])
      (by rw [RootBlock.declaration?, hrole])
    rw [hprovider] at hpass
    rw [Survey.add, hrole]
    exact hpass
  | foreign =>
    have hprovider : b.provider? = none := by rw [RootBlock.provider?, hrole]
    have hpass := h.pass (b := b) (by rw [RootBlock.issue?, hrole])
      (by rw [RootBlock.declaration?, hrole])
    rw [hprovider, Option.toList_none, List.append_nil] at hpass
    rw [Survey.add, hrole]
    exact hpass

theorem Covers.foldl_add (h : s.Covers root earlier) (blocks : List RootBlock) :
    (blocks.foldl Survey.add s).Covers root (earlier ++ blocks) := by
  induction blocks generalizing s earlier with
  | nil => rwa [List.append_nil]
  | cons b rest ih =>
    have hrest := ih (h.add b)
    rwa [List.append_assoc] at hrest

end Survey

theorem covers_foldl_addSource (sources : List Source) :
    (sources.foldl Survey.addSource { Survey.empty with
      issues := sources.flatMap rootAttributes }).Covers (sources.flatMap rootAttributes)
      (rootBlocks sources) := by
  rw [Survey.foldl_addSource]
  exact (Survey.covers_empty _).foldl_add (rootBlocks sources)

def providers (sources : List Source) : List Body :=
  (rootBlocks sources).filterMap RootBlock.provider?

def declarations (sources : List Source) : List Declaration :=
  (rootBlocks sources).filterMap RootBlock.declaration?

variable {sources : List Source}

theorem providers_survey (sources : List Source) :
    (survey sources).providers = providers sources := by
  have h := (covers_foldl_addSource sources).providers
  unfold survey
  dsimp only
  split
  · exact h
  · exact h

theorem issues_survey (sources : List Source) :
    (survey sources).issues = sources.flatMap rootAttributes ++
      blockIssues (rootBlocks sources) ++ providerIssues (providers sources).length := by
  have h := covers_foldl_addSource sources
  unfold survey providerIssues providers
  rw [← h.providers, ← h.issues]
  dsimp only
  split
  · rfl
  · exact (List.append_nil _).symm

theorem declarations_survey (h : (survey sources).issues = []) :
    (survey sources).declarations = declarations sources ∧
      ((declarations sources).map Declaration.address).Nodup := by
  have hcovers := covers_foldl_addSource sources
  have hsurvey : (survey sources).declarations = (sources.foldl Survey.addSource
      { Survey.empty with issues := sources.flatMap rootAttributes }).declarations := by
    unfold survey
    dsimp only
    split
    · rfl
    · rfl
  rw [issues_survey, List.append_eq_nil_iff, List.append_eq_nil_iff] at h
  have hcomplete := hcovers.complete h.1.2
  have hdistinct := hcovers.distinct
  rw [hcomplete] at hsurvey hdistinct
  exact ⟨hsurvey, hdistinct⟩

end Plan

end Monitoring
