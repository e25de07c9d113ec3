import Monitoring.Proofs.Remote.Validity
import Monitoring.Proofs.Resource.Mappable
import Monitoring.Proofs.Text.Lowered

namespace Monitoring

structure OnceEach (items all : List String) : Prop where
  mem_iff : ∀ item, item ∈ items ↔ item ∈ all
  ordered : items.Pairwise fun a b => all.idxOf a < all.idxOf b

theorem OnceEach.nodup {items all : List String} (h : OnceEach items all) : items.Nodup := by
  apply h.ordered.imp
  rintro a b hlt rfl
  exact Nat.lt_irrefl _ hlt

namespace ResourceState

variable {seen items : List String} {item : String}

theorem mem_firstOccurrences_iff :
    item ∈ firstOccurrences seen items ↔ item ∈ items ∧ item ∉ seen := by
  induction items generalizing seen with
  | nil => simp [firstOccurrences]
  | cons first rest ih =>
    rw [firstOccurrences]
    by_cases hfirst : first ∈ seen
    · rw [if_pos hfirst, ih, List.mem_cons]
      constructor
      · rintro ⟨hmem, hnew⟩
        exact ⟨.inr hmem, hnew⟩
      · rintro ⟨rfl | hmem, hnew⟩
        · exact absurd hfirst hnew
        · exact ⟨hmem, hnew⟩
    · rw [if_neg hfirst, List.mem_cons, ih, List.mem_cons, List.mem_cons, not_or]
      by_cases h : item = first
      · subst h
        exact iff_of_true (.inl rfl) ⟨.inl rfl, hfirst⟩
      · simp [h]

theorem pairwise_idxOf_cons {l : List String}
    (h : l.Pairwise fun a b => items.idxOf a < items.idxOf b) (hne : ∀ a ∈ l, a ≠ item) :
    l.Pairwise fun a b => (item :: items).idxOf a < (item :: items).idxOf b := by
  refine h.imp_of_mem fun ha hb hlt => ?_
  rw [List.idxOf_cons_ne _ (hne _ ha).symm, List.idxOf_cons_ne _ (hne _ hb).symm]
  exact Nat.succ_lt_succ hlt

theorem pairwise_firstOccurrences (seen items : List String) :
    (firstOccurrences seen items).Pairwise fun a b => items.idxOf a < items.idxOf b := by
  induction items generalizing seen with
  | nil => exact .nil
  | cons first rest ih =>
    rw [firstOccurrences]
    split
    · rename_i hfirst
      refine pairwise_idxOf_cons (ih seen) fun a ha => ?_
      rintro rfl
      exact (mem_firstOccurrences_iff.mp ha).2 hfirst
    · have hne : ∀ a ∈ firstOccurrences (first :: seen) rest, a ≠ first := by
        rintro a ha rfl
        exact (mem_firstOccurrences_iff.mp ha).2 List.mem_cons_self
      refine List.pairwise_cons.mpr ⟨fun a ha => ?_, pairwise_idxOf_cons (ih _) hne⟩
      rw [List.idxOf_cons_self, List.idxOf_cons_ne _ (hne a ha).symm]
      exact Nat.succ_pos _

theorem onceEach_firstOccurrences (items : List String) :
    OnceEach (firstOccurrences [] items) items :=
  ⟨fun _ => mem_firstOccurrences_iff.trans (and_iff_left List.not_mem_nil),
    pairwise_firstOccurrences [] items⟩

theorem map_firstOccurrences {f : String → String}
    (hf : ∀ a, a ∈ seen ∨ a ∈ items → ∀ b ∈ items, f a = f b → a = b) :
    (firstOccurrences seen items).map f = firstOccurrences (seen.map f) (items.map f) := by
  induction items generalizing seen with
  | nil => rfl
  | cons first rest ih =>
    have hmem : f first ∈ seen.map f ↔ first ∈ seen := by
      refine ⟨fun h => ?_, List.mem_map_of_mem⟩
      obtain ⟨a, ha, heq⟩ := List.mem_map.mp h
      rwa [← hf a (.inl ha) first List.mem_cons_self heq]
    rw [List.map_cons, firstOccurrences, firstOccurrences]
    by_cases hfirst : first ∈ seen
    · rw [if_pos hfirst, if_pos (hmem.mpr hfirst)]
      exact ih fun a ha b hb => hf a (ha.imp_right (List.mem_cons_of_mem first)) b
        (List.mem_cons_of_mem first hb)
    · rw [if_neg hfirst, if_neg (mt hmem.mp hfirst), List.map_cons]
      refine congrArg _ (ih fun a ha b hb => hf a ?_ b (List.mem_cons_of_mem first hb))
      obtain ha | ha := ha
      · exact (List.mem_cons.mp ha).elim (fun h => .inr (h ▸ List.mem_cons_self)) .inl
      · exact .inr (List.mem_cons_of_mem first ha)

end ResourceState

namespace EventType

variable {types : List String}

def Respelled (types : List String) : Prop :=
  ∃ a ∈ types, ∃ b ∈ types, a ≠ b ∧ harmonized a = harmonized b

instance (types : List String) : Decidable (Respelled types) :=
  inferInstanceAs (Decidable (∃ a ∈ types, ∃ b ∈ types, a ≠ b ∧ harmonized a = harmonized b))

theorem not_respelled_iff :
    ¬ Respelled types ↔ ∀ a ∈ types, ∀ b ∈ types, harmonized a = harmonized b → a = b := by
  constructor
  · intro h a ha b hb heq
    by_contra hne
    exact h ⟨a, ha, b, hb, hne, heq⟩
  · rintro h ⟨a, ha, b, hb, hne, heq⟩
    exact hne (h a ha b hb heq)

open ResourceState (firstOccurrences onceEach_firstOccurrences map_firstOccurrences)

theorem nodup_map_harmonized_iff :
    ((firstOccurrences [] types).map harmonized).Nodup ↔ ¬ Respelled types := by
  have honce := onceEach_firstOccurrences types
  rw [List.nodup_map_iff_inj_on honce.nodup, not_respelled_iff]
  simp only [honce.mem_iff]

theorem onceEach_harmonized_iff :
    OnceEach ((firstOccurrences [] types).map harmonized) (types.map harmonized) ↔
      ¬ Respelled types := by
  constructor
  · intro h
    exact nodup_map_harmonized_iff.mp h.nodup
  · intro h
    have hinj := not_respelled_iff.mp h
    rw [map_firstOccurrences fun a ha => hinj a (ha.resolve_left List.not_mem_nil)]
    exact onceEach_firstOccurrences _

theorem harmonized_comp_harmonized : harmonized ∘ harmonized = harmonized :=
  funext Text.lowerCase_lowerCase

theorem same_harmonized_iff {s t : String} :
    same (harmonized s) (harmonized t) = true ↔ harmonized s = harmonized t :=
  Text.equalsIgnoringCase_lowerCase_iff

theorem pairwise_same_iff :
    (((firstOccurrences [] types).map harmonized).Pairwise fun a b => same a b = false) ↔
      ¬ Respelled types := by
  rw [← nodup_map_harmonized_iff, List.Nodup, List.pairwise_map, List.pairwise_map]
  simp only [← Bool.not_eq_true, same_harmonized_iff, ne_eq]

end EventType

namespace AlertingConfiguration

open EventType ResourceState in
/-- Every set keeps its elements, each once and in order, event types in lower case. Only event
types in two spellings stay apart, and nothing else is ever refused as not unique. -/
theorem ofState_collapses {s : ResourceState} (h : schema.Fits s) (format : NameFormat) :
    ∃ c, ofState s format = .ok c ∧
      OnceEach c.integrationIds (s.listed "integration_ids") ∧
      OnceEach c.eventFilter.ruleIds (s.listed "event_filter_rule_ids") ∧
      (∃ types, OnceEach types (s.listed "event_filter_event_types") ∧
        c.eventFilter.eventTypes = types.map harmonized) ∧
      (OnceEach c.eventFilter.eventTypes
          ((s.listed "event_filter_event_types").map harmonized) ↔
        ¬ Respelled (s.listed "event_filter_event_types")) ∧
      ((c.eventFilter.eventTypes.Pairwise fun a b => same a b = false) ↔
        ¬ Respelled (s.listed "event_filter_event_types")) ∧
      (Respelled (s.listed "event_filter_event_types") → c.validate ≠ .ok ()) ∧
      ∀ field, c.validate = .error (.notUnique field) →
        field = "EventTypes" ∧ Respelled (s.listed "event_filter_event_types") := by
  obtain ⟨name, query, hc⟩ := exists_ofState_eq h format
  have hids := onceEach_firstOccurrences (s.listed "integration_ids")
  have hrules := onceEach_firstOccurrences (s.listed "event_filter_rule_ids")
  refine ⟨_, hc, hids, hrules, ⟨_, onceEach_firstOccurrences _, rfl⟩, onceEach_harmonized_iff,
    pairwise_same_iff, fun hrespelled hvalid => ?_, fun field hfield => ?_⟩
  · have hnodup := (validate_eq_ok_iff.mp hvalid).eventFilter.eventTypes.2
    rw [List.map_map, harmonized_comp_harmonized] at hnodup
    exact nodup_map_harmonized_iff.mp hnodup hrespelled
  · obtain ⟨-, hrepeated⟩ | ⟨-, hrepeated⟩ | ⟨hfield, hrepeated⟩ := repeated_of_validate hfield
    · exact absurd hids.nodup hrepeated
    · exact absurd hrules.nodup hrepeated
    · rw [List.map_map, harmonized_comp_harmonized, nodup_map_harmonized_iff, not_not] at hrepeated
      exact ⟨hfield, hrepeated⟩

def criticalState : ResourceState :=
  (((ResourceState.empty.setId "alert").set "alert_name" (.string "alert")).set "integration_ids"
    (.strings ["ops"])).set "event_filter_event_types" (.strings ["CRITICAL", "critical"])

theorem ofState_collapses_criticalState :
    schema.conform criticalState = (criticalState, .ok ()) ∧
      ∃ c, ofState criticalState ⟨"", ""⟩ = .ok c ∧
        c.eventFilter.eventTypes = ["critical", "critical"] ∧
        ¬ OnceEach c.eventFilter.eventTypes
          ((criticalState.listed "event_filter_event_types").map EventType.harmonized) ∧
        c.validate = .error (.notUnique "EventTypes") := by
  have hconform : schema.conform criticalState = (criticalState, .ok ()) := rfl
  have hfits : schema.Fits criticalState :=
    ResourceKind.fits_of_conform (k := .alertingConfiguration) hconform
  have hmapped : ofState criticalState ⟨"", ""⟩ =
      .ok ⟨"alert", "alert", ["ops"], ⟨none, [], ["critical", "critical"]⟩⟩ := by decide +kernel
  obtain ⟨c, hc, -, -, -, honce, -⟩ := ofState_collapses hfits ⟨"", ""⟩
  rw [hmapped] at hc
  cases hc
  refine ⟨hconform, _, hmapped, rfl, ?_, ?_⟩
  · rw [honce, not_not]
    decide +kernel
  · decide +kernel

end AlertingConfiguration

end Monitoring
