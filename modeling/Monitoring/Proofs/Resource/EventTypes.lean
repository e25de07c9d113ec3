import Monitoring.Proofs.Resource.Collapsing
import Monitoring.Proofs.Resource.Settling
import Monitoring.Proofs.Text.CaseFolding

namespace Monitoring

namespace EventType

variable {s t : String}

theorem k_notMem_supported : ∀ t ∈ supported, 'k' ∉ t.toList := by decide +kernel

theorem harmonized_eq_iff (ht : t ∈ supported) :
    harmonized s = t ↔ Text.equalsIgnoringCase t s = true :=
  Text.lowerCase_eq_iff (ascii_supported t ht) (k_notMem_supported t ht) (lower_supported t ht)

theorem isSupported_iff_harmonized_mem : isSupported s = true ↔ harmonized s ∈ supported := by
  refine ⟨harmonized_mem_supported, fun h => ?_⟩
  exact isSupported_iff.mpr ⟨harmonized s, h, (harmonized_eq_iff h).mp rfl⟩

theorem isSupported_harmonized (s : String) : isSupported (harmonized s) = isSupported s := by
  have hlower : harmonized (harmonized s) = harmonized s := congrFun harmonized_comp_harmonized s
  rw [Bool.eq_iff_iff, isSupported_iff_harmonized_mem, isSupported_iff_harmonized_mem, hlower]

theorem same_of_harmonized_eq (hs : isSupported s = true) (h : harmonized s = harmonized t) :
    same s t = true := by
  have hmem := harmonized_mem_supported hs
  have hs' := (harmonized_eq_iff hmem).mp (rfl : harmonized s = harmonized s)
  have ht' := (harmonized_eq_iff hmem).mp h.symm
  rw [Text.equalsIgnoringCase, beq_iff_eq] at hs' ht'
  rw [same, Text.equalsIgnoringCase, ← hs', ← ht', beq_self_eq_true]

end EventType

namespace AlertingConfiguration

variable {c : AlertingConfiguration} {s : ResourceState} {format : NameFormat}

theorem Valid.of_settled (h : c.settled.Valid) : c.Valid := by
  obtain ⟨hid, hname, hids, hquery, hchoice, hruleIds, ⟨hcount, hdistinct⟩, hsupported⟩ := h
  refine ⟨hid, hname, hids, hquery, ?_, hruleIds, ⟨?_, ?_⟩, fun t ht => ?_⟩
  · exact hchoice.trans (not_congr List.map_eq_nil_iff)
  · rwa [AlertingConfiguration.settled, List.length_map] at hcount
  · rwa [AlertingConfiguration.settled, List.map_map, EventType.harmonized_comp_harmonized]
      at hdistinct
  · rw [← EventType.isSupported_harmonized]
    exact hsupported _ (List.mem_map_of_mem ht)

theorem validate_settled_iff : c.settled.validate = .ok () ↔ c.validate = .ok () := by
  rw [validate_eq_ok_iff, validate_eq_ok_iff]
  exact ⟨Valid.of_settled, Valid.settled⟩

theorem exists_settled_of_ofState (h : ofState s format = .ok c) :
    ∃ configured : AlertingConfiguration, configured.settled = c ∧
      s.stringSet "event_filter_event_types" = .ok configured.eventFilter.eventTypes := by
  obtain ⟨alertName, -, h⟩ := Result.bind_eq_ok_iff.mp h
  obtain ⟨eventTypes, htypes, h⟩ := Result.bind_eq_ok_iff.mp h
  obtain ⟨integrationIds, -, h⟩ := Result.bind_eq_ok_iff.mp h
  obtain ⟨query, -, h⟩ := Result.bind_eq_ok_iff.mp h
  obtain ⟨ruleIds, -, h⟩ := Result.bind_eq_ok_iff.mp h
  cases h
  exact ⟨⟨_, alertName, integrationIds, ⟨query, ruleIds, eventTypes⟩⟩, rfl, htypes⟩

end AlertingConfiguration

namespace EventType

/-- A type is supported exactly if its lower case is one of the words. Types that are the same but
for ASCII letters have one lower case, and the lower case of a supported type is that of no others.
What is mapped from a state has its types in lower case, and is valid exactly if it would be with
the types as they are configured. -/
theorem notions_of_case_agree :
    (∀ s, isSupported s = true ↔ harmonized s ∈ supported) ∧
    (∀ s t, same s t = true → harmonized s = harmonized t) ∧
    (∀ s t, isSupported s = true → harmonized s = harmonized t → same s t = true) ∧
    (∀ s, isSupported (harmonized s) = isSupported s) ∧
    ∀ (state : ResourceState) (format : NameFormat) (c : AlertingConfiguration),
      AlertingConfiguration.ofState state format = .ok c →
      ∃ configured : AlertingConfiguration, configured.settled = c ∧
        state.stringSet "event_filter_event_types" = .ok configured.eventFilter.eventTypes ∧
        (c.validate = .ok () ↔ configured.validate = .ok ()) := by
  refine ⟨fun s => isSupported_iff_harmonized_mem, fun s t => Text.lowerCase_congr,
    fun s t => same_of_harmonized_eq, isSupported_harmonized, fun state format c hc => ?_⟩
  obtain ⟨configured, rfl, htypes⟩ := AlertingConfiguration.exists_settled_of_ofState hc
  exact ⟨configured, rfl, htypes, AlertingConfiguration.validate_settled_iff⟩

def offlineState : ResourceState :=
  ((ResourceState.empty.setId "disk").set "alert_name" (.string "disk")).set
    "event_filter_event_types" (.strings ["OFFLINE", "Fatal"])

theorem notions_of_case_agree_offlineState :
    harmonized "OFFLINE" = harmonized "Offline" ∧ same "OFFLINE" "offline" = true ∧
    ∃ c configured : AlertingConfiguration,
      AlertingConfiguration.ofState offlineState ⟨"", ""⟩ = .ok c ∧ configured.settled = c ∧
      configured.eventFilter.eventTypes = ["OFFLINE", "Fatal"] ∧ c.validate ≠ .ok () ∧
      configured.validate ≠ .ok () := by
  obtain ⟨-, hlower, hsame, -, hmapped⟩ := notions_of_case_agree
  have hstate : AlertingConfiguration.ofState offlineState ⟨"", ""⟩ =
      .ok ⟨"disk", "disk", [], ⟨none, [], ["offline", "fatal"]⟩⟩ := by decide +kernel
  have hset : offlineState.stringSet "event_filter_event_types" = .ok ["OFFLINE", "Fatal"] := rfl
  obtain ⟨configured, hsettled, htypes, hiff⟩ := hmapped _ _ _ hstate
  rw [hset] at htypes
  have hinvalid : (⟨"disk", "disk", [], ⟨none, [], ["offline", "fatal"]⟩⟩ :
      AlertingConfiguration).validate ≠ .ok () := by decide +kernel
  exact ⟨hlower _ _ (by decide), hsame _ _ (by decide +kernel) (by decide +kernel), _, configured,
    hstate, hsettled, (Except.ok.inj htypes).symm, hinvalid, mt hiff.mpr hinvalid⟩

end EventType

end Monitoring
