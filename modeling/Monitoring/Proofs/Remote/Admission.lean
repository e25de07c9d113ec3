import Monitoring.Proofs.Remote.Decoding
import Monitoring.Proofs.Remote.Echo
import Monitoring.Proofs.Result

/-!
What collections let in and out. An object goes out only if it is valid; of an answer comes in what
decodes and is valid, of a list all or nothing, and otherwise the first thing that is wrong with it
is reported.
-/

namespace Monitoring.Collection

def Holds (body : ByteArray) (j : Json) : Prop :=
  ∃ text raw, body = String.toUTF8 text ∧ Json.parse text = some raw ∧ raw.canonical = j

section Elements

variable (α : Type) [Storable α]

def Admits (j : Json) (o : α) : Prop :=
  (∃ fields, j = .object fields) ∧ Storable.ofJson? j = some o ∧ Storable.validate o = .ok ()

inductive Refuses : Json → RemoteError → Prop
  | shape {j : Json} (h : ∀ fields, j ≠ .object fields) :
    Refuses j (.unexpectedShape (Storable.path α) .singleObject)
  | undecodable {fields : List (String × Json)}
    (h : Storable.ofJson? (α := α) (.object fields) = none) :
    Refuses (.object fields) (.malformed (Storable.path α))
  | invalid {fields : List (String × Json)} {o : α} {e : ValidationError}
    (hd : Storable.ofJson? (.object fields) = some o) (hv : Storable.validate o = .error e) :
    Refuses (.object fields) (.validation e)

def AdmitsAll (j : Json) (os : List α) : Prop :=
  ∃ items, j = .array items ∧ List.Forall₂ (Admits α) items os

inductive RefusesAll : Json → RemoteError → Prop
  | shape {j : Json} (h : ∀ items, j ≠ .array items) :
    RefusesAll j (.unexpectedShape (Storable.path α) .arrayOfObjects)
  | item {before behind : List Json} {bad : Json} {e : RemoteError}
    (hbefore : ∀ j ∈ before, ∃ o, Admits α j o) (hbad : Refuses α bad e) :
    RefusesAll (.array (before ++ bad :: behind)) e

end Elements

/-- How the result of an exchange follows from the answer of the client. -/
structure Follows {β : Type} (admits : Json → β → Prop) (refuses : Json → RemoteError → Prop)
    (path : String) (a : Except TransportError ByteArray) (result : Except RemoteError β) :
    Prop where
  admitted : ∀ x, result = .ok x ↔ ∃ body j, a = .ok body ∧ Holds body j ∧ admits j x
  transport : ∀ e, a = .error e → result = .error (.transport e)
  malformed : ∀ body, a = .ok body → (∀ j, ¬Holds body j) → result = .error (.malformed path)
  refused : ∀ body j, a = .ok body → Holds body j → ∀ e, result = .error e ↔ refuses j e

section Body

variable {path : String} {body : ByteArray} {j : Json} {e : RemoteError}

theorem fromUTF8?_eq_some_iff {text : String} :
    String.fromUTF8? body = some text ↔ body = text.toUTF8 := by
  refine ⟨fun h => ?_, fun h => h ▸ fromUTF8?_toUTF8 text⟩
  unfold String.fromUTF8? at h
  split at h
  · cases h
    rfl
  · cases h

theorem bodyJson_eq_ok_iff : bodyJson path body = .ok j ↔ Holds body j := by
  unfold bodyJson
  split
  · rename_i raw h
    obtain ⟨text, ht, hp⟩ := Option.bind_eq_some_iff.mp h
    have hbody := fromUTF8?_eq_some_iff.mp ht
    refine ⟨fun h => ⟨text, raw, hbody, hp, Except.ok.inj h⟩, ?_⟩
    rintro ⟨text', raw', rfl, hp', rfl⟩
    rw [fromUTF8?_toUTF8] at ht
    cases ht
    rw [hp] at hp'
    cases hp'
    rfl
  · rename_i h
    refine ⟨nofun, ?_⟩
    rintro ⟨text, raw, rfl, hp, -⟩
    rw [fromUTF8?_toUTF8, Option.bind_some, hp] at h
    cases h

theorem bodyJson_of_not_holds (h : ∀ j, ¬Holds body j) :
    bodyJson path body = .error (.malformed path) := by
  cases hb : bodyJson path body with
  | ok j => exact absurd (bodyJson_eq_ok_iff.mp hb) (h j)
  | error e =>
    unfold bodyJson at hb
    split at hb
    · cases hb
    · cases hb
      rfl

theorem holds_text_iff (hi : j.Legible) (hc : j.IsCanonical) (y : Json.Layout) {found : Json} :
    Holds (j.text y).toUTF8 found ↔ j.depth ≤ Json.maxNesting ∧ found = j := by
  rw [← @bodyJson_eq_ok_iff "", bodyJson_text_of_isCanonical hi hc]
  by_cases h : j.depth ≤ Json.maxNesting
  · rw [if_pos h]
    exact ⟨fun hj => ⟨h, (Except.ok.inj hj).symm⟩, fun hj => congrArg Except.ok hj.2.symm⟩
  · rw [if_neg h]
    exact ⟨nofun, fun hj => absurd hj.1 h⟩

theorem follows_answer {β : Type} {admits : Json → β → Prop} {refuses : Json → RemoteError → Prop}
    {read : Json → Except RemoteError β} (hok : ∀ j x, read j = .ok x ↔ admits j x)
    (herror : ∀ j e, read j = .error e ↔ refuses j e) (path : String)
    (a : Except TransportError ByteArray) :
    Follows admits refuses path a (answer (fun body => bodyJson path body >>= read) a) := by
  cases a with
  | error e =>
    refine ⟨fun x => ⟨fun h => ?_, ?_⟩, fun e' h => ?_, fun body h => ?_, fun body j h => ?_⟩
    · cases h
    · rintro ⟨body, j, h, -⟩
      cases h
    · cases h
      rfl
    · cases h
    · cases h
  | ok body =>
    rw [answer]
    refine ⟨fun x => ?_, fun e h => ?_, fun body' h hb => ?_, fun body' j h hb e => ?_⟩
    · rw [Result.bind_eq_ok_iff]
      constructor
      · rintro ⟨j, hj, hx⟩
        exact ⟨body, j, rfl, bodyJson_eq_ok_iff.mp hj, (hok j x).mp hx⟩
      · rintro ⟨body', j, h, hj, hx⟩
        cases h
        exact ⟨j, bodyJson_eq_ok_iff.mpr hj, (hok j x).mpr hx⟩
    · cases h
    · cases h
      rw [bodyJson_of_not_holds hb]
      rfl
    · cases h
      rw [bodyJson_eq_ok_iff.mpr hb, Result.ok_bind]
      exact herror j e

end Body

section Objects

variable {α : Type} [Storable α] {j : Json} {e : RemoteError}

theorem objectOfJson_eq_ok_iff {o : α} : objectOfJson α j = .ok o ↔ Admits α j o := by
  constructor
  · intro h
    unfold objectOfJson at h
    split at h
    · split at h
      · cases h
      · rename_i hd
        split at h
        · cases h
        · rename_i hv
          cases h
          exact ⟨⟨_, rfl⟩, hd, hv⟩
    · cases h
  · rintro ⟨⟨fields, rfl⟩, hd, hv⟩
    simp only [objectOfJson, hd, hv]
    rfl

theorem objectOfJson_eq_error_iff : objectOfJson α j = .error e ↔ Refuses α j e := by
  constructor
  · intro h
    unfold objectOfJson at h
    split at h
    · split at h
      · rename_i hd
        cases h
        exact .undecodable hd
      · rename_i hd
        split at h
        · rename_i hv
          cases h
          exact .invalid hd hv
        · cases h
    · rename_i hshape
      cases h
      exact .shape hshape
  · intro h
    cases h with
    | shape h =>
      unfold objectOfJson
      split
      · exact absurd rfl (h _)
      · rfl
    | undecodable hd => simp only [objectOfJson, hd]
    | invalid hd hv => simp only [objectOfJson, hd, hv]

def readAll (α : Type) [Storable α] : Json → Except RemoteError (List α)
  | .array items => items.mapM (objectOfJson α)
  | _ => .error (.unexpectedShape (Storable.path α) .arrayOfObjects)

theorem readAll_eq_ok_iff {os : List α} : readAll α j = .ok os ↔ AdmitsAll α j os := by
  unfold readAll AdmitsAll
  split
  · rename_i items
    simp only [Result.mapM_eq_ok_iff, objectOfJson_eq_ok_iff]
    exact ⟨fun h => ⟨items, rfl, h⟩, fun ⟨_, hitems, h⟩ => Json.array.inj hitems ▸ h⟩
  · rename_i hshape
    exact ⟨nofun, fun ⟨items, hitems, _⟩ => absurd hitems (hshape items)⟩

theorem readAll_eq_error_iff : readAll α j = .error e ↔ RefusesAll α j e := by
  constructor
  · intro h
    unfold readAll at h
    split at h
    · obtain ⟨before, bad, behind, rfl, hbefore, hbad⟩ := Result.mapM_eq_error_iff.mp h
      simp only [objectOfJson_eq_ok_iff] at hbefore
      exact .item hbefore (objectOfJson_eq_error_iff.mp hbad)
    · rename_i hshape
      cases h
      exact .shape hshape
  · intro h
    cases h with
    | shape h =>
      unfold readAll
      split
      · exact absurd rfl (h _)
      · rfl
    | item hbefore hbad =>
      simp only [← objectOfJson_eq_ok_iff] at hbefore
      exact Result.mapM_eq_error_iff.mpr
        ⟨_, _, _, rfl, hbefore, objectOfJson_eq_error_iff.mpr hbad⟩

variable (α) in
theorem follows_object (a : Except TransportError ByteArray) :
    Follows (Admits α) (Refuses α) (Storable.path α) a (answer (objectOfBody α) a) :=
  follows_answer (fun _ _ => objectOfJson_eq_ok_iff) (fun _ _ => objectOfJson_eq_error_iff)
    (Storable.path α) a

variable (α) in
theorem follows_list (a : Except TransportError ByteArray) :
    Follows (AdmitsAll α) (RefusesAll α) (Storable.path α) a (answer (objectsOfBody α) a) :=
  follows_answer (fun _ _ => readAll_eq_ok_iff) (fun _ _ => readAll_eq_error_iff)
    (Storable.path α) a

end Objects

/-- Whatever the client answers, an object that is not valid is not sent, what comes in is valid,
and of a list every item comes in or none. -/
theorem only_valid_objects_pass (α : Type) [Storable α] (client : Client) :
    (∀ (o : α) e, Storable.validate o = .error e → upsert client o = ⟨[], .error (.validation e)⟩) ∧
    (∀ o : α, Storable.validate o = .ok () →
      Follows (Admits α) (Refuses α) (Storable.path α)
        (client.put (Storable.id o) (Storable.toJson o).canonical (Storable.path α))
        (upsert client o).result) ∧
    (∀ id, Follows (Admits α) (Refuses α) (Storable.path α) (client.getOne id (Storable.path α))
      (getOne α client id).result) ∧
    Follows (AdmitsAll α) (RefusesAll α) (Storable.path α) (client.getAll (Storable.path α))
      (getAll α client).result := by
  refine ⟨fun o e hv => ?_, fun o hv => ?_, fun id => follows_object α _, follows_list α _⟩
  · rw [upsert, hv]
  · rw [upsert, hv]
    exact follows_object α _

def channelList (cs : List AlertingChannel) : Json :=
  (Json.array (cs.map AlertingChannel.toJson)).canonical

def lister (cs : List AlertingChannel) : Client :=
  { Client.echo with getAll := fun _ => .ok (channelList cs).compact.toUTF8 }

theorem holds_channelList {cs : List AlertingChannel}
    (hd : (channelList cs).depth ≤ Json.maxNesting) :
    Holds (channelList cs).compact.toUTF8 (channelList cs) := by
  have hi : (Json.array (cs.map AlertingChannel.toJson)).Legible := by
    refine Json.legibleItems_iff.mpr fun j hj => ?_
    obtain ⟨c, -, rfl⟩ := List.mem_map.mp hj
    exact c.legible_toJson
  exact (holds_text_iff hi.canonical (Json.isCanonical_canonical _) .compact).mpr ⟨hd, rfl⟩

def opsChannel : AlertingChannel :=
  { AlertingChannel.bare "ops" "ops" .email with emails := ["ops@example.com"] }

def silentChannel : AlertingChannel := .bare "silent" "silent" .email

theorem only_valid_channels_pass :
    upsert .echo silentChannel = ⟨[], .error (.validation (.missing "Emails"))⟩ ∧
    (getAll AlertingChannel (lister [opsChannel])).result = .ok [opsChannel] ∧
    (getAll AlertingChannel (lister [opsChannel, silentChannel])).result =
      .error (.validation (.missing "Emails")) := by
  have hops : Admits AlertingChannel opsChannel.toJson.canonical opsChannel :=
    ⟨⟨_, rfl⟩, opsChannel.ofJson?_canonical, rfl⟩
  have hsilent : Refuses AlertingChannel silentChannel.toJson.canonical
      (.validation (.missing "Emails")) := .invalid silentChannel.ofJson?_canonical rfl
  refine ⟨(only_valid_objects_pass AlertingChannel .echo).1 _ _ rfl, ?_, ?_⟩
  · obtain ⟨-, -, -, hlist⟩ := only_valid_objects_pass AlertingChannel (lister [opsChannel])
    have hbody : Holds _ (channelList [opsChannel]) := holds_channelList (by decide)
    exact (hlist.admitted _).mpr ⟨_, _, rfl, hbody, _, rfl, .cons hops .nil⟩
  · obtain ⟨-, -, -, hlist⟩ :=
      only_valid_objects_pass AlertingChannel (lister [opsChannel, silentChannel])
    have hbody : Holds _ (channelList [opsChannel, silentChannel]) := holds_channelList (by decide)
    refine (hlist.refused _ _ rfl hbody _).mpr ?_
    have hbefore : ∀ j ∈ [opsChannel.toJson.canonical], ∃ o, Admits AlertingChannel j o := by
      rw [List.forall_mem_singleton]
      exact ⟨opsChannel, hops⟩
    exact .item hbefore hsilent

end Monitoring.Collection
