import Monitoring.Proofs.Plan.Making
import Monitoring.Proofs.Text.Run

namespace Monitoring

namespace ResourceKind

theorem typeName_injective {k k' : ResourceKind} (h : k.typeName = k'.typeName) : k = k' := by
  have hfound := k.ofTypeName?_typeName
  rw [h, k'.ofTypeName?_typeName] at hfound
  exact (Option.some.inj hfound).symm

theorem ne_point_of_mem_typeName (k : ResourceKind) :
    ∀ c ∈ k.typeName.toList, (c != '.') = true := by
  have h : k.typeName.toList.all (· != '.') = true := forall_of_all (by decide) k
  exact List.all_eq_true.mp h

theorem address_inj {k k' : ResourceKind} {name name' : String}
    (h : k.typeName ++ "." ++ name = k'.typeName ++ "." ++ name') : k = k' ∧ name = name' := by
  have hends : ∀ s : String, Text.EndsRun (· != '.') ('.' :: s.toList) :=
    fun s => Text.EndsRun.cons (by decide)
  have hchars : k.typeName.toList ++ '.' :: name.toList =
      k'.typeName.toList ++ '.' :: name'.toList := by
    have h := congrArg String.toList h
    rwa [String.toList_append, String.toList_append, String.toList_append, String.toList_append,
      List.append_assoc, List.append_assoc] at h
  have htype := congrArg (List.takeWhile (· != '.')) hchars
  have hname := congrArg (List.dropWhile (· != '.')) hchars
  rw [(hends _).takeWhile_append k.ne_point_of_mem_typeName,
    (hends _).takeWhile_append k'.ne_point_of_mem_typeName] at htype
  rw [(hends _).dropWhile_append k.ne_point_of_mem_typeName,
    (hends _).dropWhile_append k'.ne_point_of_mem_typeName] at hname
  exact ⟨typeName_injective (String.toList_inj.mp htype),
    String.toList_inj.mp (List.cons.inj hname).2⟩

end ResourceKind

namespace RootBlock

variable {b : RootBlock} {earlier : List RootBlock} {i : Issue} {d : Declaration}

inductive Declares (b : RootBlock) : Declaration → Prop
  | resource {k : ResourceKind} {name : String} (htype : b.type = "resource")
    (hlabels : b.labels = [k.typeName, name]) :
    Declares b ⟨k.typeName ++ "." ++ name, k, b.body⟩

def Provides (b : RootBlock) : Prop := b.type = "provider" ∧ b.labels.head? = some "instana"

structure Unsupported (b : RootBlock) (type : String) : Prop where
  resource : b.type = "resource"
  labels : ∃ name, b.labels = [type, name]
  unknown : ∀ k : ResourceKind, type ≠ k.typeName

inductive Foreign (b : RootBlock) : Prop
  | block (htype : b.type ≠ "resource") (hprovider : ¬b.Provides)
  | resource {type : String} (h : b.Unsupported type) (htype : ¬"instana_".toList <+: type.toList)

inductive Problem (earlier : List RootBlock) (b : RootBlock) : Issue → Prop
  | labels (htype : b.type = "resource") (hlabels : b.labels.length ≠ 2) :
    Problem earlier b (.resourceLabels b.file b.labels.length)
  | unsupported {type : String} (h : b.Unsupported type)
    (htype : "instana_".toList <+: type.toList) :
    Problem earlier b (.unknownResourceType b.file type)
  | repeated {d : Declaration} (h : b.Declares d) {e : RootBlock} (he : e ∈ earlier)
    (htype : e.type = b.type) (hlabels : e.labels = b.labels) :
    Problem earlier b (.duplicateAddress b.file d.address)

inductive Plays (b : RootBlock) : Role → Prop
  | mislabelled (htype : b.type = "resource") (hlabels : b.labels.length ≠ 2) : Plays b .mislabelled
  | unsupported {type : String} (h : b.Unsupported type)
    (htype : "instana_".toList <+: type.toList) : Plays b (.unsupported type)
  | declares {d : Declaration} (h : b.Declares d) : Plays b (.declares d)
  | provider (h : b.Provides) : Plays b .provider
  | foreign (h : b.Foreign) : Plays b .foreign

theorem plays_role (b : RootBlock) : b.Plays b.role := by
  unfold role
  split
  · rename_i htype
    split
    · rename_i type name hlabels
      split
      · rename_i k hk
        obtain rfl := ResourceKind.ofTypeName?_eq_some_iff.mp hk
        exact .declares (.resource htype hlabels)
      · rename_i hk
        have h : b.Unsupported type :=
          ⟨htype, ⟨name, hlabels⟩, ResourceKind.ofTypeName?_eq_none_iff.mp hk⟩
        split
        · rename_i hprefix
          exact .unsupported h hprefix
        · rename_i hprefix
          exact .foreign (.resource h hprefix)
    · rename_i hlabels
      refine .mislabelled htype fun hlength => ?_
      obtain ⟨type, name, h⟩ := List.length_eq_two.mp hlength
      exact hlabels type name h
  · rename_i htype
    split
    · rename_i hprovider
      exact .provider hprovider
    · rename_i hprovider
      exact .foreign (.block htype hprovider)

theorem Declares.role_eq (h : b.Declares d) : b.role = .declares d := by
  obtain ⟨htype, hlabels⟩ := h
  simp only [role, htype, hlabels, if_true, ResourceKind.ofTypeName?_typeName]

theorem Unsupported.role_eq {type : String} (h : b.Unsupported type) :
    b.role = if "instana_".toList <+: type.toList then .unsupported type else .foreign := by
  obtain ⟨htype, ⟨name, hlabels⟩, hunknown⟩ := h
  simp only [role, htype, hlabels, if_true, ResourceKind.ofTypeName?_eq_none_iff.mpr hunknown]

theorem Provides.role_eq (h : b.Provides) : b.role = .provider := by
  have htype : b.type ≠ "resource" := by
    rw [h.1]
    decide
  rw [role, if_neg htype]
  exact if_pos h

theorem Plays.role_eq {r : Role} (h : b.Plays r) : b.role = r := by
  cases h with
  | mislabelled htype hlabels =>
    rw [role, if_pos htype]
    split
    · rename_i type name h
      rw [h] at hlabels
      exact absurd rfl hlabels
    · rfl
  | unsupported h htype => rw [h.role_eq, if_pos htype]
  | declares h => exact h.role_eq
  | provider h => exact h.role_eq
  | foreign h =>
    cases h with
    | block htype hprovider =>
      rw [role, if_neg htype]
      exact if_neg hprovider
    | resource h htype => rw [h.role_eq, if_neg htype]

theorem role_eq_iff {r : Role} : b.role = r ↔ b.Plays r :=
  ⟨fun h => h ▸ b.plays_role, Plays.role_eq⟩

theorem declaration?_eq_some_iff : b.declaration? = some d ↔ b.Declares d := by
  have hrole : b.declaration? = some d ↔ b.role = .declares d := by
    unfold declaration?
    cases b.role <;> simp
  rw [hrole, role_eq_iff]
  refine ⟨?_, .declares⟩
  rintro ⟨⟩
  assumption

theorem provider?_eq_some_iff {body : Body} :
    b.provider? = some body ↔ b.Provides ∧ b.body = body := by
  have hrole : b.provider? = some body ↔ b.role = .provider ∧ b.body = body := by
    unfold provider?
    cases b.role <;> simp
  rw [hrole, role_eq_iff]
  refine and_congr_left fun _ => ⟨?_, .provider⟩
  rintro ⟨⟩
  assumption

theorem Declares.address_eq_iff {e : RootBlock} {d' : Declaration} (h : b.Declares d)
    (h' : e.Declares d') : d'.address = d.address ↔ e.labels = b.labels := by
  obtain ⟨-, hlabels⟩ := h
  obtain ⟨-, hlabels'⟩ := h'
  rw [hlabels, hlabels']
  constructor
  · intro h
    obtain ⟨rfl, rfl⟩ := ResourceKind.address_inj h
    rfl
  · intro h
    injection h with htype h
    injection h with hname
    exact congrArg₂ (fun type name => type ++ "." ++ name) htype hname

theorem Declares.type_eq (h : b.Declares d) : b.type = "resource" := by
  cases h
  assumption

theorem Declares.congr {e : RootBlock} (h : b.Declares d) (htype : e.type = b.type)
    (hlabels : e.labels = b.labels) : e.Declares { d with body := e.body } := by
  obtain ⟨htype', hlabels'⟩ := h
  exact .resource (htype.trans htype') (hlabels.trans hlabels')

theorem Declares.repeated_iff (h : b.Declares d) :
    d.address ∈ (earlier.filterMap declaration?).map Declaration.address ↔
      ∃ e ∈ earlier, e.type = b.type ∧ e.labels = b.labels := by
  rw [List.mem_map]
  constructor
  · rintro ⟨d', hd', haddress⟩
    obtain ⟨e, he, hdeclared⟩ := List.mem_filterMap.mp hd'
    have h' := declaration?_eq_some_iff.mp hdeclared
    exact ⟨e, he, h'.type_eq.trans h.type_eq.symm, (h.address_eq_iff h').mp haddress⟩
  · rintro ⟨e, he, htype, hlabels⟩
    have h' := h.congr htype hlabels
    exact ⟨_, List.mem_filterMap.mpr ⟨e, he, declaration?_eq_some_iff.mpr h'⟩,
      (h.address_eq_iff h').mpr hlabels⟩

theorem issue?_eq_some_iff : b.issue? earlier = some i ↔ b.Problem earlier i := by
  have hplays := b.plays_role
  constructor
  · intro h
    unfold issue? at h
    cases hrole : b.role with
    | mislabelled =>
      rw [hrole] at h hplays
      cases h
      obtain ⟨htype, hlabels⟩ := hplays
      exact .labels htype hlabels
    | unsupported type =>
      rw [hrole] at h hplays
      cases h
      obtain _ | ⟨hu, htype⟩ := hplays
      exact .unsupported hu htype
    | declares d =>
      rw [hrole] at h hplays
      obtain _ | _ | hd := hplays
      dsimp only at h
      split at h
      · rename_i hrepeated
        cases h
        obtain ⟨e, he, htype, hlabels⟩ := hd.repeated_iff.mp hrepeated
        exact .repeated hd he htype hlabels
      · cases h
    | provider =>
      rw [hrole] at h
      cases h
    | foreign =>
      rw [hrole] at h
      cases h
  · intro h
    cases h with
    | labels htype hlabels => rw [issue?, (Plays.mislabelled htype hlabels).role_eq]
    | unsupported h htype => rw [issue?, (Plays.unsupported h htype).role_eq]
    | repeated h he htype hlabels =>
      have hrepeated := h.repeated_iff.mpr ⟨_, he, htype, hlabels⟩
      simp only [issue?, h.role_eq, if_pos hrepeated]

instance : DecidablePred Provides := fun b =>
  inferInstanceAs (Decidable (b.type = "provider" ∧ b.labels.head? = some "instana"))

def outline (b : RootBlock) : RootBlock := { b with body := [] }

theorem Problem.outline_iff :
    b.outline.Problem (earlier.map outline) i ↔ b.Problem earlier i := by
  constructor
  · intro h
    cases h with
    | labels htype hlabels => exact .labels htype hlabels
    | unsupported h htype => exact .unsupported ⟨h.resource, h.labels, h.unknown⟩ htype
    | @repeated d h e he htype hlabels =>
      obtain ⟨e', he', rfl⟩ := List.mem_map.mp he
      have hproblem : b.Problem earlier _ := .repeated (h.congr (e := b) rfl rfl) he' htype hlabels
      exact hproblem
  · intro h
    cases h with
    | labels htype hlabels => exact .labels htype hlabels
    | unsupported h htype => exact .unsupported ⟨h.resource, h.labels, h.unknown⟩ htype
    | @repeated d h e he htype hlabels =>
      have hproblem : b.outline.Problem (earlier.map outline) _ :=
        .repeated (h.congr (e := b.outline) rfl rfl) (List.mem_map_of_mem he) htype hlabels
      exact hproblem

end RootBlock

namespace Plan

open RootBlock (Problem Provides Foreign Declares)

inductive Gathers {β : Type} (finds : List RootBlock → RootBlock → β → Prop) :
    List RootBlock → List RootBlock → List β → Prop
  | nil {earlier : List RootBlock} : Gathers finds earlier [] []
  | skip {earlier rest : List RootBlock} {b : RootBlock} {found : List β}
    (h : ∀ x, ¬finds earlier b x) (hrest : Gathers finds (earlier ++ [b]) rest found) :
    Gathers finds earlier (b :: rest) found
  | find {earlier rest : List RootBlock} {b : RootBlock} {x : β} {found : List β}
    (h : finds earlier b x) (hrest : Gathers finds (earlier ++ [b]) rest found) :
    Gathers finds earlier (b :: rest) (x :: found)

theorem gathers_iff {β : Type} {finds : List RootBlock → RootBlock → β → Prop}
    {find : List RootBlock → RootBlock → Option β}
    (h : ∀ earlier b x, find earlier b = some x ↔ finds earlier b x)
    {earlier blocks : List RootBlock} {found : List β} :
    Gathers finds earlier blocks found ↔ found = gather find earlier blocks := by
  constructor
  · intro hg
    induction hg with
    | nil => rfl
    | @skip earlier rest b found hb _ ih =>
      have hnone : find earlier b = none :=
        Option.eq_none_iff_forall_ne_some.mpr fun x hx => hb x ((h earlier b x).mp hx)
      rw [gather, hnone, ← ih]
      rfl
    | @find earlier rest b x found hb _ ih =>
      rw [gather, (h earlier b x).mpr hb, ← ih]
      rfl
  · rintro rfl
    induction blocks generalizing earlier with
    | nil => exact .nil
    | cons b rest ih =>
      rw [gather]
      cases hb : find earlier b with
      | none =>
        refine .skip (fun x hx => ?_) ih
        rw [(h earlier b x).mpr hx] at hb
        cases hb
      | some x => exact .find ((h earlier b x).mp hb) ih

inductive Flawed (sources : List Source) : Prop
  | rootAttribute {s : Source} (hs : s ∈ sources) (h : s.body.attributes ≠ [])
  | labels {b : RootBlock} (hb : b ∈ rootBlocks sources) (htype : b.type = "resource")
    (hlabels : b.labels.length ≠ 2)
  | unsupported {b : RootBlock} {type : String} (hb : b ∈ rootBlocks sources)
    (h : b.Unsupported type) (htype : "instana_".toList <+: type.toList)
  | repeated {before behind : List RootBlock} {b e : RootBlock} {d : Declaration}
    (hblocks : rootBlocks sources = before ++ b :: behind) (h : b.Declares d) (he : e ∈ before)
    (htype : e.type = b.type) (hlabels : e.labels = b.labels)
  | providers (h : 1 < (rootBlocks sources).countP Provides)

variable {sources : List Source} {base : Configuration} {override : ConfigurationLayer}
variable {freshId : Nat → String}

theorem length_providers (sources : List Source) :
    (providers sources).length = (rootBlocks sources).countP Provides := by
  rw [providers, List.length_filterMap_eq_countP]
  refine List.countP_congr fun b _ => ?_
  rw [Option.isSome_iff_exists, decide_eq_true_iff]
  constructor
  · rintro ⟨body, h⟩
    exact (RootBlock.provider?_eq_some_iff.mp h).1
  · intro h
    exact ⟨b.body, RootBlock.provider?_eq_some_iff.mpr ⟨h, rfl⟩⟩

theorem blockIssues_ne_nil_iff {blocks : List RootBlock} :
    blockIssues blocks ≠ [] ↔ ∃ before b behind i, blocks = before ++ b :: behind ∧
      b.Problem before i := by
  constructor
  · intro h
    obtain ⟨i, hi⟩ := List.exists_mem_of_ne_nil _ h
    obtain ⟨before, b, behind, hblocks, h⟩ := mem_gather_iff.mp hi
    exact ⟨before, b, behind, i, hblocks, RootBlock.issue?_eq_some_iff.mp h⟩
  · rintro ⟨before, b, behind, i, hblocks, h⟩
    have hissue := RootBlock.issue?_eq_some_iff.mpr h
    exact List.ne_nil_of_mem (mem_gather_iff.mpr ⟨before, b, behind, hblocks, hissue⟩)

theorem rootAttributes_ne_nil_iff :
    sources.flatMap rootAttributes ≠ [] ↔ ∃ s ∈ sources, s.body.attributes ≠ [] := by
  simp only [ne_eq, List.flatMap_eq_nil_iff, rootAttributes, List.map_eq_nil_iff, not_forall,
    exists_prop]

theorem providerIssues_ne_nil_iff {count : Nat} : providerIssues count ≠ [] ↔ 1 < count := by
  rw [providerIssues]
  split
  case isTrue h => exact iff_of_true (List.cons_ne_nil _ _) h
  case isFalse h => exact iff_of_false (fun hne => hne rfl) h

theorem Flawed.of_problem {before behind : List RootBlock} {b : RootBlock} {i : Issue}
    (hsplit : rootBlocks sources = before ++ b :: behind) (h : b.Problem before i) :
    Flawed sources := by
  have hb : b ∈ rootBlocks sources := by
    rw [hsplit]
    exact List.mem_append_right before List.mem_cons_self
  cases h with
  | labels htype hlabels => exact .labels hb htype hlabels
  | unsupported h htype => exact .unsupported hb h htype
  | repeated h he htype hlabels => exact .repeated hsplit h he htype hlabels

theorem flawed_iff : Flawed sources ↔ (∃ s ∈ sources, s.body.attributes ≠ []) ∨
    (∃ before b behind i, rootBlocks sources = before ++ b :: behind ∧ b.Problem before i) ∨
    1 < (rootBlocks sources).countP Provides := by
  constructor
  · intro h
    cases h with
    | @rootAttribute s hs h => exact .inl ⟨s, hs, h⟩
    | labels hb htype hlabels =>
      obtain ⟨before, behind, hsplit⟩ := List.append_of_mem hb
      exact .inr (.inl ⟨before, _, behind, _, hsplit, .labels htype hlabels⟩)
    | unsupported hb h htype =>
      obtain ⟨before, behind, hsplit⟩ := List.append_of_mem hb
      exact .inr (.inl ⟨before, _, behind, _, hsplit, .unsupported h htype⟩)
    | repeated hsplit h he htype hlabels =>
      exact .inr (.inl ⟨_, _, _, _, hsplit, .repeated h he htype hlabels⟩)
    | providers h => exact .inr (.inr h)
  · rintro (⟨s, hs, h⟩ | ⟨before, b, behind, i, hsplit, h⟩ | h)
    · exact .rootAttribute hs h
    · exact .of_problem hsplit h
    · exact .providers h

theorem issues_ne_nil_iff : (survey sources).issues ≠ [] ↔ Flawed sources := by
  rw [issues_survey, length_providers, flawed_iff, ← rootAttributes_ne_nil_iff,
    ← blockIssues_ne_nil_iff, ← providerIssues_ne_nil_iff]
  simp only [ne_eq, List.append_eq_nil_iff, not_and_or, or_assoc]

theorem exists_provider (h : (survey sources).issues = []) :
    ∃ provider : Option Body, providers sources = provider.toList := by
  have hcount : ¬1 < (rootBlocks sources).countP Provides :=
    fun hcount => issues_ne_nil_iff.mpr (.providers hcount) h
  rw [← length_providers] at hcount
  generalize providers sources = bodies at hcount
  cases bodies with
  | nil => exact ⟨none, rfl⟩
  | cons body rest =>
    have hrest : rest.length = 0 := by
      rw [List.length_cons] at hcount
      omega
    obtain rfl := List.length_eq_zero_iff.mp hrest
    exact ⟨some body, rfl⟩

end Plan

end Monitoring
