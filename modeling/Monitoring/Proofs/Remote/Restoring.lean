import Monitoring.Proofs.Remote.Admission

namespace Monitoring

namespace ApplicationConfig

def known (c : ApplicationConfig) : Json.Known :=
  .record [("id", .value), ("label", .value), ("matchSpecification", c.matchSpecification.known),
    ("scope", .value), ("boundaryScope", .value)]

theorem ofJson?_of_widens {c : ApplicationConfig} {j : Json} (h : j.Widens c.known c.toJson) :
    ofJson? j.canonical = some c := by
  have hid : j.canonical.field? "id" = some (.string c.id) := h.field?_value rfl
  have hlabel : j.canonical.field? "label" = some (.string c.label) := h.field?_value rfl
  have hscope : j.canonical.field? "scope" = some (.string c.scope) := h.field?_value rfl
  have hboundaryScope : j.canonical.field? "boundaryScope" = some (.string c.boundaryScope) :=
    h.field?_value rfl
  have hspecification : c.toJson.canonical.field? "matchSpecification" =
      some c.matchSpecification.toJson.canonical := rfl
  obtain ⟨fields, rfl⟩ := h.exists_object
  obtain ⟨found, hwidens, hfound⟩ := h.exists_field rfl rfl hspecification
  rw [ofJson?, Json.named?_canonical_object]
  simp only [Option.bind_eq_bind, Option.bind_some, Json.required_of_field? hid,
    Json.required_of_field? hlabel, Json.required_of_field? hfound,
    Json.required_of_field? hscope, Json.required_of_field? hboundaryScope,
    MatchSpecification.ofJson?_of_widens hwidens]
  rfl

theorem narrow_toJson (c : ApplicationConfig) : c.toJson.narrow c.known = c.toJson := by
  refine congrArg Json.object (Json.narrowFields_eq_self fun field h => ?_)
  simp only [List.mem_cons, List.not_mem_nil, or_false] at h
  obtain rfl | rfl | rfl | rfl | rfl := h
  · exact ⟨.value, rfl, rfl⟩
  · exact ⟨.value, rfl, rfl⟩
  · exact ⟨c.matchSpecification.known, rfl, c.matchSpecification.narrow_toJson⟩
  · exact ⟨.value, rfl, rfl⟩
  · exact ⟨.value, rfl, rfl⟩

end ApplicationConfig

namespace Collection

open Json (maxNesting)

variable {α : Type} [Storable α]

def Decodes (body : ByteArray) (o : α) : Prop :=
  ∃ fields, bodyJson (Storable.path α) body = .ok (.object fields) ∧
    Storable.ofJson? (.object fields) = some o

/-- Every object comes back from the texts of its JSON, in declared and in ascending order of the
fields, and from those of any value with further fields that it does not know. -/
structure Restores (α : Type) [Storable α] (known : α → Json.Known) : Prop where
  encoded : ∀ (o : α) y, (Storable.toJson o).depth ≤ maxNesting →
    Decodes ((Storable.toJson o).text y).toUTF8 o ∧
      Decodes ((Storable.toJson o).canonical.text y).toUTF8 o
  printed : ∀ (o : α) (j : Json) y, j.Widens (known o) (Storable.toJson o) → j.Legible →
    j.depth ≤ maxNesting → Decodes (j.text y).toUTF8 o
  parsed : ∀ (o : α) (j : Json) text, j.Widens (known o) (Storable.toJson o) →
    Json.parse text = some j → Decodes text.toUTF8 o
  checked : ∀ body (o : α), Decodes body o → objectOfBody α body =
    ((Storable.validate o).mapError .validation).map fun () => o

theorem objectOfBody_of_decodes {body : ByteArray} {o : α} (h : Decodes body o) :
    objectOfBody α body = ((Storable.validate o).mapError .validation).map fun () => o := by
  obtain ⟨fields, hbody, hdecoded⟩ := h
  rw [objectOfBody, hbody, Result.ok_bind]
  simp only [objectOfJson, hdecoded]
  cases Storable.validate o <;> rfl

theorem restores {known : α → Json.Known}
    (hobject : ∀ o : α, ∃ fields, Storable.toJson o = .object fields)
    (hl : ∀ o : α, (Storable.toJson o).Legible)
    (hself : ∀ o : α, (Storable.toJson o).narrow (known o) = Storable.toJson o)
    (hwidens : ∀ (o : α) (j : Json), j.Widens (known o) (Storable.toJson o) →
      Storable.ofJson? j.canonical = some o) : Restores α known := by
  have decodes {o : α} {j : Json} {body : ByteArray} (h : j.Widens (known o) (Storable.toJson o))
      (hbody : bodyJson (Storable.path α) body = .ok j.canonical) : Decodes body o := by
    have hdecoded := hwidens o j h
    obtain ⟨base, hbase⟩ := hobject o
    rw [hbase] at h
    obtain ⟨fields, rfl⟩ := h.exists_object
    exact ⟨_, hbody, hdecoded⟩
  have printed (o : α) (j : Json) (y : Json.Layout) (h : j.Widens (known o) (Storable.toJson o))
      (hj : j.Legible) (hd : j.depth ≤ maxNesting) : Decodes (j.text y).toUTF8 o :=
    decodes h ((bodyJson_text hj y _).trans (if_pos hd))
  refine ⟨fun o y hd => ⟨?_, ?_⟩, printed, fun o j text h hp => ?_,
    fun body o => objectOfBody_of_decodes⟩
  · exact printed o _ y (.of_narrow_eq (hself o)) (hl o) hd
  · have hcanonical : (Storable.toJson o).canonical.Widens (known o) (Storable.toJson o) := by
      rw [Json.Widens, ← Json.canonical_narrow, hself, Json.canonical_canonical]
    exact printed o _ y hcanonical ((hl o).canonical) (Nat.le_trans (Json.depth_canonical_le _) hd)
  · refine decodes h ?_
    rw [bodyJson, fromUTF8?_toUTF8, Option.bind_some, hp]

theorem decoding_undoes_encoding :
    Restores RuleBinding (fun _ => RuleBinding.known) ∧
    Restores AlertingChannel (fun _ => AlertingChannel.known) ∧
    Restores AlertingConfiguration (fun _ => AlertingConfiguration.known) ∧
    Restores ApplicationConfig ApplicationConfig.known :=
  ⟨restores (fun _ => ⟨_, rfl⟩) RuleBinding.legible_toJson RuleBinding.narrow_toJson
      fun _ _ => RuleBinding.ofJson?_of_widens,
    restores (fun _ => ⟨_, rfl⟩) AlertingChannel.legible_toJson AlertingChannel.narrow_toJson
      fun _ _ => AlertingChannel.ofJson?_of_widens,
    restores (fun _ => ⟨_, rfl⟩) AlertingConfiguration.legible_toJson
      AlertingConfiguration.narrow_toJson fun _ _ => AlertingConfiguration.ofJson?_of_widens,
    restores (fun _ => ⟨_, rfl⟩) ApplicationConfig.legible_toJson ApplicationConfig.narrow_toJson
      fun _ _ => ApplicationConfig.ofJson?_of_widens⟩

def zoneConfig : ApplicationConfig :=
  ⟨"shop", "Shop", .tagFilter ⟨"zone", "EQUALS", none, some "eu"⟩, "INCLUDE_NO_DOWNSTREAM", "ALL"⟩

def widenedZoneJson : Json :=
  .object [("version", .decimal "2.50"), ("id", .string "shop"), ("label", .string "Shop"),
    ("scope", .string "INCLUDE_NO_DOWNSTREAM"), ("boundaryScope", .string "ALL"),
    ("matchSpecification", .object [("type", .string "TAG_FILTER"), ("name", .string "zone"),
      ("left", .array [.null]), ("operator", .string "EQUALS"), ("value", .string "eu")])]

def farBinding : RuleBinding where
  id := "far"
  enabled := true
  triggering := false
  severity := Int32.minValue
  text := "far"
  description := "as far as it gets"
  expirationTime := Int64.maxValue
  query := none
  ruleIds := []

theorem decoding_undoes_encoding_zoneConfig :
    widenedZoneJson.Widens zoneConfig.known zoneConfig.toJson ∧
    Decodes widenedZoneJson.pretty.toUTF8 zoneConfig ∧
    Decodes farBinding.toJson.compact.toUTF8 farBinding := by
  obtain ⟨hbinding, -, -, hconfig⟩ := decoding_undoes_encoding
  have hwidens : widenedZoneJson.Widens zoneConfig.known zoneConfig.toJson := rfl
  have hversion : (Json.decimal "2.50").Legible := by
    refine ⟨⟨false, ['2'], some ['5', '0'], none⟩, ⟨.inr ⟨'2', [], rfl, by decide⟩, ?_, ?_, nofun⟩,
      rfl⟩
    · exact List.all_eq_true.mp rfl
    · rintro _ ⟨⟩
      exact ⟨by decide, List.all_eq_true.mp rfl⟩
  have hlegible : widenedZoneJson.Legible :=
    ⟨hversion, trivial, trivial, trivial, trivial, ⟨trivial, trivial, ⟨trivial, trivial⟩, trivial,
      trivial, trivial⟩, trivial⟩
  exact ⟨hwidens, hconfig.printed _ _ .indented hwidens hlegible (by decide),
    (hbinding.encoded farBinding .compact (by decide)).1⟩

end Collection

end Monitoring
