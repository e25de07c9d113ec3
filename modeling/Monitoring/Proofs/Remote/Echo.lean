import Monitoring.Proofs.Json.Canonical
import Monitoring.Proofs.MatchSpecification.Wire
import Monitoring.Remote.ApplicationConfig
import Monitoring.Remote.Collection

namespace Monitoring

open Json (maxNesting)

def Client.Echoes (client : Client) : Prop :=
  ∀ id payload path, ∃ y : Json.Layout, client.put id payload path = .ok (payload.text y).toUTF8

def Client.echo : Client where
  getOne id path := .error (.notFound path id)
  getAll path := .error (.failed path "nothing is kept")
  put _ payload _ := .ok payload.compact.toUTF8
  delete _ _ := .ok ()

theorem Client.echoes_echo : echo.Echoes := fun _ _ _ => ⟨.compact, rfl⟩

namespace Collection

theorem fromUTF8?_toUTF8 (s : String) : String.fromUTF8? s.toUTF8 = some s := by
  rw [String.fromUTF8?, String.toUTF8_eq_toByteArray, dif_pos s.isValidUTF8]
  rfl

theorem bodyJson_text {j : Json} (hl : j.Legible) (y : Json.Layout) (path : String) :
    bodyJson path (j.text y).toUTF8 =
      if j.depth ≤ maxNesting then .ok j.canonical else .error (.malformed path) := by
  rw [bodyJson, fromUTF8?_toUTF8, Option.bind_some, Json.parse_text hl]
  by_cases h : j.depth ≤ maxNesting
  · simp only [if_pos h]
  · simp only [if_neg h]

theorem bodyJson_text_of_isCanonical {j : Json} (hl : j.Legible) (hc : j.IsCanonical)
    (y : Json.Layout) (path : String) :
    bodyJson path (j.text y).toUTF8 =
      if j.depth ≤ maxNesting then .ok j else .error (.malformed path) := by
  rw [bodyJson_text hl, hc.canonical_eq]

variable {α : Type} [Storable α]

theorem upsert_of_echoes {client : Client} (he : client.Echoes) {o : α}
    {fields : List (String × Json)} (hv : Storable.validate o = .ok ())
    (hi : (Storable.toJson o).Legible) (hc : (Storable.toJson o).canonical = .object fields)
    (hr : Storable.ofJson? (.object fields) = some o) :
    (upsert client o).result =
      if (Json.object fields).depth ≤ maxNesting then .ok o
      else .error (.malformed (Storable.path α)) := by
  obtain ⟨y, hput⟩ := he (Storable.id o) (.object fields) (Storable.path α)
  have hlegible := hi.canonical
  have hcanonical := Json.isCanonical_canonical (Storable.toJson o)
  rw [hc] at hlegible hcanonical
  have hbody := bodyJson_text_of_isCanonical hlegible hcanonical y (Storable.path α)
  simp only [upsert, hv, hc, hput, answer, objectOfBody, hbody]
  by_cases h : (Json.object fields).depth ≤ maxNesting
  · rw [if_pos h, if_pos h]
    change objectOfJson α (.object fields) = .ok o
    simp only [objectOfJson, hr, hv]
    rfl
  · rw [if_neg h, if_neg h]
    rfl

end Collection

namespace ApplicationConfig

def sortedFields (c : ApplicationConfig) : List (String × Json) :=
  [("boundaryScope", .string c.boundaryScope), ("id", .string c.id), ("label", .string c.label),
   ("matchSpecification", c.matchSpecification.toJson.canonical), ("scope", .string c.scope)]

theorem canonical_toJson (c : ApplicationConfig) : c.toJson.canonical = .object c.sortedFields :=
  rfl

theorem ofJson?_sortedFields (c : ApplicationConfig) : ofJson? (.object c.sortedFields) = some c := by
  have hnamed : (Json.object c.sortedFields).named?
      ["id", "label", "matchSpecification", "scope", "boundaryScope"] = some c.sortedFields := rfl
  have hm : Json.required MatchSpecification.ofJson? "matchSpecification" c.sortedFields =
      some c.matchSpecification := c.matchSpecification.ofJson?_canonical
  rw [ofJson?, hnamed]
  simp only [Option.bind_eq_bind, Option.bind_some, hm]
  rfl

theorem legible_toJson (c : ApplicationConfig) : c.toJson.Legible :=
  ⟨trivial, trivial, c.matchSpecification.legible_toJson, trivial, trivial, trivial⟩

theorem depth_sortedFields (c : ApplicationConfig) :
    (Json.object c.sortedFields).depth = c.matchSpecification.depth + 1 := by
  simp only [sortedFields, Json.depth, Json.depthOfFields, MatchSpecification.depth_canonical,
    Nat.zero_max, Nat.max_zero]

theorem upsert_of_echoes {client : Client} (he : client.Echoes) {c : ApplicationConfig}
    (hv : c.validate = .ok ()) :
    (Collection.upsert client c).result =
      if c.matchSpecification.depth + 1 ≤ maxNesting then .ok c
      else .error (.malformed (Storable.path ApplicationConfig)) := by
  rw [← depth_sortedFields]
  exact Collection.upsert_of_echoes he hv c.legible_toJson c.canonical_toJson c.ofJson?_sortedFields

end ApplicationConfig

end Monitoring
