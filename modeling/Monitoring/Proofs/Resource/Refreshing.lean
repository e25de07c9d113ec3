import Monitoring.Proofs.Resource.Renaming

/-!
A rename that was not sent yet, and what a refresh does to it. Reading an object that is as the state
shows it writes nothing, but it commits: the new name then counts as stored, and what is stored keeps
the old one.
-/

namespace Monitoring

def Client.holding (o : StoredObject) : Client :=
  { Client.echo with getOne := fun _ _ => .ok o.payload.compact.toUTF8 }

theorem StoredObject.receive_holding {o : StoredObject} (hv : o.validate = .ok ())
    (hd : o.payload.depth ≤ Json.maxNesting) (id path : String) :
    o.kind.receive ((Client.holding o).getOne id path) = .ok o := by
  have h := StoredObject.result_upsert_of_echoes Client.echoes_echo hv hd
  rwa [StoredObject.result_upsert hv] at h

namespace ResourceKind

variable {k : ResourceKind} {o mapped : StoredObject} {s t : ResourceState} {format : NameFormat}
variable {client : Client} {name : String}

structure Holds (k : ResourceKind) (o : StoredObject) (s : ResourceState) : Prop where
  kind : o.kind = k
  id : s.id = some o.id
  changes : ∃ changes, o.Writes changes ∧ s.Shows changes

theorem holds_commit_of_store (h : k.store o s = (t, .ok ())) : k.Holds o t.commit := by
  have hid := id_of_store h
  obtain ⟨hkind, changes, hw, rfl⟩ := store_eq_ok_iff.mp h
  exact ⟨hkind, hid, changes, hw, ResourceState.shows_assign hw.nodup⟩

theorem Holds.store_eq (h : k.Holds o s) : k.store o s = (s, .ok ()) := by
  obtain ⟨hkind, hid, changes, hw, hshows⟩ := h
  refine store_eq_ok_iff.mpr ⟨hkind, changes, hw, ?_⟩
  rw [ResourceState.setId_of_id hid]
  exact hshows.assign_eq

theorem Holds.commit (h : k.Holds o s) : k.Holds o s.commit := ⟨h.kind, h.id, h.changes⟩

def rename (k : ResourceKind) (s : ResourceState) (name : String) : ResourceState :=
  s.set k.nameField (.string name)

theorem get?_rename (k : ResourceKind) (s : ResourceState) (name : String) :
    (k.rename s name).get? k.nameField = some (.string name) := by
  rw [rename, ResourceState.get?_set, if_pos rfl]

theorem Holds.rename (h : k.Holds o s) (name : String) : k.Holds o (k.rename s name) := by
  obtain ⟨hkind, hid, changes, hw, hshows⟩ := h
  refine ⟨hkind, hid, changes, hw, ?_⟩
  intro change hchange
  have hne : change.1 ≠ k.nameField := by
    rintro heq
    apply hw.nameField_notMem
    rw [hkind, ← heq]
    exact List.mem_map_of_mem hchange
  rw [ResourceKind.rename, ResourceState.get?_set, if_neg hne]
  exact hshows change hchange

theorem Holds.get?_fullNameField (h : k.Holds o s) :
    s.get? k.fullNameField = some (.string o.name) := by
  obtain ⟨rfl, -, changes, hw, hshows⟩ := h
  exact hshows _ hw.fullName_mem

def refresh (k : ResourceKind) (s : ResourceState) (readers : List Client) : ResourceState :=
  readers.foldl (fun s reader => (k.read reader s).state) s

theorem Holds.read_eq (h : k.Holds o s) {reader : Client}
    (ho : k.receive (reader.getOne o.id k.path) = .ok o) :
    k.read reader s = ⟨[.getOne o.id k.path], s.commit, .ok ()⟩ := by
  have hfound : (k.fetch reader o.id).result = .ok o := by rw [result_fetch, ho]
  rw [read_of_found h.id hfound, accept_of_store h.store_eq, calls_fetch]

theorem Holds.refresh_eq (h : k.Holds o s) {readers : List Client}
    (hr : ∀ reader ∈ readers, k.receive (reader.getOne o.id k.path) = .ok o) :
    k.refresh s readers = if readers = [] then s else s.commit := by
  induction readers generalizing s with
  | nil => rfl
  | cons reader rest ih =>
    obtain ⟨hreader, hrest⟩ := List.forall_mem_cons.mp hr
    have hstep : k.refresh s (reader :: rest) = k.refresh s.commit rest := by
      rw [refresh, List.foldl_cons, h.read_eq hreader]
      rfl
    rw [hstep, ih h.commit hrest, if_neg (List.cons_ne_nil reader rest)]
    apply ite_self

theorem sends_update (client : Client) (ho : k.toObject s format = .ok mapped)
    (hv : mapped.validate = .ok ()) :
    k.Sends mapped.name (k.update client format s).calls ∧
      k.SendsOnly mapped.name (k.update client format s).calls := by
  obtain ⟨hkind, -⟩ := kind_id_of_toObject ho
  have hname := field?_nameKey_payload mapped
  rw [hkind] at hname
  rw [calls_update ho, StoredObject.calls_upsert hv]
  exact ⟨⟨_, _, _, .head _, hname⟩, sendsOnly_put hkind⟩

theorem exists_store_of_accept {calls : List Call} (h : (k.accept s calls o).result = .ok ()) :
    ∃ stored, k.store o s = (stored, .ok ()) := by
  unfold accept at h
  split at h
  · rename_i stored hstore
    exact ⟨stored, hstore⟩
  · cases h

theorem exists_answer_of_update (h : (k.update client format s).result = .ok ()) :
    ∃ id payload o, (k.update client format s).calls = [.put id payload k.path] ∧
      k.receive (client.put id payload k.path) = .ok o ∧
      k.Holds o (k.update client format s).state ∧
      k.Named o.name (k.update client format s).state := by
  cases ho : k.toObject s format with
  | error e =>
    rw [update_of_unmapped ho] at h
    cases h
  | ok mapped =>
    cases hv : mapped.validate with
    | error e =>
      rw [update_of_invalid ho hv] at h
      cases h
    | ok _ =>
      cases hr : (mapped.upsert client).result with
      | error e =>
        rw [update_of_refused ho hr] at h
        cases h
      | ok o =>
        obtain ⟨hkind, -⟩ := kind_id_of_toObject ho
        obtain ⟨given, hgiven⟩ := NameFormat.exists_given_of_fullName (fullName_of_toObject ho)
        rw [update_of_stored ho hr] at h
        obtain ⟨stored, hstore⟩ := exists_store_of_accept h
        rw [update_of_stored ho hr, accept_of_store hstore, StoredObject.calls_upsert hv]
        rw [StoredObject.result_upsert hv, hkind] at hr
        rw [StoredObject.path_eq, hkind] at hr ⊢
        exact ⟨_, _, o, rfl, hr, holds_commit_of_store hstore, named_commit hstore hgiven⟩

section Rename

theorem fullName_rename (hn : k.Named o.name s) (hh : k.Holds o s)
    (hname : s.get? k.nameField ≠ some (.string name)) (format : NameFormat) :
    format.fullName (k.rename s name) k.nameField k.fullNameField = .ok (format.format name) := by
  obtain ⟨given, hgiven, hprior⟩ := hn.given
  refine NameFormat.fullName_of_changed (k.get?_rename s name) ?_
    (hh.rename name).get?_fullNameField
  intro hsame
  apply hname
  rw [hgiven, ← hprior]
  exact hsame

theorem named_commit_rename (hh : k.Holds o s) (name : String) :
    k.Named o.name (k.rename s name).commit :=
  ⟨⟨name, k.get?_rename s name, k.get?_rename s name⟩, (hh.rename name).get?_fullNameField⟩

/-- A creation or an update ended well, the name is then changed, and the stored object is read back
unchanged. Each read leaves all as it is but commits the change. A later update therefore sends the
new name only if no read came between, and otherwise the stored one, for good. -/
theorem rename_kept_until_refresh {outcome : Outcome} (hok : outcome.result = .ok ())
    (hoperation : outcome = k.update client format s ∨
      ∃ freshId, outcome = k.create client format freshId s) :
    ∃ id payload o, outcome.calls = [.put id payload k.path] ∧
      k.receive (client.put id payload k.path) = .ok o ∧
      ∀ (name : String) (readers : List Client),
        outcome.state.get? k.nameField ≠ some (.string name) →
        (∀ reader ∈ readers, k.receive (reader.getOne o.id k.path) = .ok o) →
        k.refresh (k.rename outcome.state name) readers =
          (if readers = [] then k.rename outcome.state name
            else (k.rename outcome.state name).commit) ∧
        (readers ≠ [] → k.Named o.name (k.refresh (k.rename outcome.state name) readers)) ∧
        ∀ (later : Client) (format : NameFormat) (mapped : StoredObject),
          k.toObject (k.refresh (k.rename outcome.state name) readers) format = .ok mapped →
          mapped.validate = .ok () →
          k.Sends (if readers = [] then format.format name else o.name)
            (k.update later format (k.refresh (k.rename outcome.state name) readers)).calls ∧
          k.SendsOnly (if readers = [] then format.format name else o.name)
            (k.update later format (k.refresh (k.rename outcome.state name) readers)).calls := by
  obtain ⟨t, rfl⟩ : ∃ t, outcome = k.update client format t := by
    obtain h | ⟨freshId, h⟩ := hoperation
    · exact ⟨s, h⟩
    · exact ⟨_, h.trans (create_eq freshId)⟩
  obtain ⟨id, payload, o, hcalls, ho, hh, hn⟩ := exists_answer_of_update hok
  refine ⟨id, payload, o, hcalls, ho, ?_⟩
  intro name readers hname hreaders
  rw [(hh.rename name).refresh_eq hreaders]
  refine ⟨rfl, ?_, ?_⟩
  · intro hread
    rw [if_neg hread]
    exact named_commit_rename hh name
  · intro later format mapped hmapped hv
    have hsends := sends_update later hmapped hv
    have hsent := fullName_of_toObject hmapped
    suffices h : mapped.name = if readers = [] then format.format name else o.name by
      rw [← h]
      exact hsends
    by_cases hread : readers = []
    · rw [if_pos hread] at hsent ⊢
      rw [fullName_rename hn hh hname] at hsent
      exact (Except.ok.inj hsent).symm
    · rw [if_neg hread] at hsent ⊢
      rw [(named_commit_rename hh name).fullName] at hsent
      exact (Except.ok.inj hsent).symm

open Collection (opsChannel)

def opsStored : ResourceState := ((alertingChannel .email).update .echo ⟨"", ""⟩ opsState).state

def opsRefreshed : ResourceState :=
  (alertingChannel .email).refresh ((alertingChannel .email).rename opsStored "dev")
    [.holding (.alertingChannel opsChannel)]

theorem rename_of_ops_lost :
    ((alertingChannel .email).update .echo ⟨"", ""⟩ opsState).result = .ok () ∧
    opsRefreshed = ((alertingChannel .email).rename opsStored "dev").commit ∧
    (∃ mapped, (alertingChannel .email).toObject opsRefreshed ⟨"", ""⟩ = .ok mapped ∧
      mapped.validate = .ok ()) ∧
    (alertingChannel .email).Sends "ops"
      ((alertingChannel .email).update .echo ⟨"", ""⟩ opsRefreshed).calls := by
  have hv : (StoredObject.alertingChannel opsChannel).validate = .ok () := rfl
  have hd : (StoredObject.alertingChannel opsChannel).payload.depth ≤ Json.maxNesting := by decide
  have hmapped : (alertingChannel .email).toObject opsState ⟨"", ""⟩ =
      .ok (.alertingChannel opsChannel) := rfl
  obtain ⟨stored, hstore, hupdate⟩ := exists_update_of_echoes Client.echoes_echo hmapped hv hd
  have hok := congrArg Outcome.result hupdate
  obtain ⟨id, payload, o, hcalls, ho, hrename⟩ := rename_kept_until_refresh hok (.inl rfl)
  have hstored : opsStored = stored.commit := congrArg Outcome.state hupdate
  have hanswered : o = .alertingChannel opsChannel := by
    rw [hupdate] at hcalls
    cases hcalls
    have hanswer := StoredObject.receive_holding hv hd "ops" (alertingChannel .email).path
    exact Except.ok.inj (ho.symm.trans hanswer)
  subst hanswered
  have hreaders : ∀ reader ∈ [Client.holding (.alertingChannel opsChannel)],
      (alertingChannel .email).receive (reader.getOne (StoredObject.alertingChannel opsChannel).id
        (alertingChannel .email).path) = .ok (.alertingChannel opsChannel) := by
    intro reader hreader
    cases List.mem_singleton.mp hreader
    exact StoredObject.receive_holding hv hd _ _
  have hname : opsStored.get? "name" ≠ some (.string "dev") := by
    rw [hstored]
    cases hstore
    exact fun h => absurd (AttributeValue.string.inj (Option.some.inj h)) (by decide)
  obtain ⟨hrefreshed, -, hsends⟩ := hrename "dev" _ hname hreaders
  have hagain : (alertingChannel .email).toObject opsRefreshed ⟨"", ""⟩ =
      .ok (.alertingChannel opsChannel) := by
    have h : opsRefreshed = ((alertingChannel .email).rename opsStored "dev").commit := hrefreshed
    rw [h, hstored]
    cases hstore
    rfl
  exact ⟨hok, hrefreshed, ⟨_, hagain, hv⟩, (hsends .echo ⟨"", ""⟩ _ hagain hv).1⟩

end Rename

end ResourceKind

end Monitoring
