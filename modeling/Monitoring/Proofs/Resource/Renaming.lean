import Monitoring.Proofs.Resource.Changes
import Monitoring.Proofs.Resource.Serving

/-!
The name that an object is stored under, over a run. It is formatted once; as long as the given name
is not touched, later formats do not count, whatever fails in between.
-/

namespace Monitoring

def Call.isPut : Call → Bool
  | put .. => true
  | _ => false

def Operation.Spares (k : ResourceKind) : Operation → Prop
  | assign name _ => name ≠ k.nameField ∧ name ≠ k.fullNameField
  | _ => True

namespace ResourceKind

variable {k : ResourceKind} {o : StoredObject} {s t : ResourceState} {format : NameFormat}
variable {client : Client} {held next : Option Json} {outcome : Outcome} {name : String}

def nameKey : ResourceKind → String
  | alertingChannel _ => "name"
  | alertingConfiguration => "alertName"
  | applicationConfig => "label"

theorem field?_nameKey_payload (o : StoredObject) :
    o.payload.field? o.kind.nameKey = some (.string o.name) := by
  cases o with
  | alertingChannel c =>
    simp [StoredObject.payload, StoredObject.kind, nameKey, StoredObject.name,
      AlertingChannel.toJson, List.lookup_append]
  | alertingConfiguration c =>
    simp [StoredObject.payload, StoredObject.kind, nameKey, StoredObject.name,
      AlertingConfiguration.toJson]
  | applicationConfig c =>
    simp [StoredObject.payload, StoredObject.kind, nameKey, StoredObject.name,
      ApplicationConfig.toJson]

theorem fullName_of_toObject (h : k.toObject s format = .ok o) :
    format.fullName s k.nameField k.fullNameField = .ok o.name := by
  cases k with
  | alertingChannel kind =>
    obtain ⟨c, hc, rfl⟩ := Result.map_eq_ok_iff.mp h
    exact (AlertingChannel.origin_of_ofState (Result.mapError_eq_ok_iff.mp hc)).2.2
  | alertingConfiguration =>
    obtain ⟨c, hc, rfl⟩ := Result.map_eq_ok_iff.mp h
    exact (AlertingConfiguration.origin_of_ofState (Result.mapError_eq_ok_iff.mp hc)).2
  | applicationConfig =>
    obtain ⟨c, hc, rfl⟩ := Result.map_eq_ok_iff.mp h
    exact (ApplicationConfig.origin_of_ofState hc).2

/-- How an update ends: with nothing sent, with nothing known about what was sent, or with the
object stored and written into the state. -/
inductive UpdateEnds (k : ResourceKind) (format : NameFormat) (s : ResourceState)
    (held : Option Json) : Outcome → Option Json → Prop
  | unsent {e : ResourceError} : UpdateEnds k format s held ⟨[], s, .error e⟩ held
  | unconfirmed {o : StoredObject} {e : ResourceError} {next : Option Json}
    (ho : k.toObject s format = .ok o) (hnext : next = held ∨ next = some o.payload) :
    UpdateEnds k format s held ⟨[.put o.id o.payload o.path], s, .error e⟩ next
  | confirmed {o : StoredObject} {stored : ResourceState} (ho : k.toObject s format = .ok o)
    (hstore : k.store o s = (stored, .ok ())) :
    UpdateEnds k format s held ⟨[.put o.id o.payload o.path], stored.commit, .ok ()⟩
      (some o.payload)

theorem updateEnds_of_serves
    (h : client.Serves held (k.update client format s).calls next) :
    k.UpdateEnds format s held (k.update client format s) next := by
  cases ho : k.toObject s format with
  | error e =>
    rw [update_of_unmapped ho] at h ⊢
    cases h
    exact .unsent
  | ok o =>
    cases hv : o.validate with
    | error e =>
      rw [update_of_invalid ho hv] at h ⊢
      cases h
      exact .unsent
    | ok _ =>
      rw [calls_update ho, StoredObject.calls_upsert hv] at h
      cases h with
      | stored hput hb =>
        cases hr : (o.upsert client).result with
        | error e =>
          rw [update_of_refused ho hr, StoredObject.calls_upsert hv]
          exact .unconfirmed ho (.inr rfl)
        | ok found =>
          have hreceived := hr
          rw [StoredObject.result_upsert hv, hput] at hreceived
          obtain rfl := StoredObject.eq_of_receive hb hreceived
          obtain ⟨hkind, -⟩ := kind_id_of_toObject ho
          obtain ⟨stored, hstore⟩ := StoredObject.exists_store hv s
          rw [hkind] at hstore
          rw [update_of_stored ho hr, accept_of_store hstore, StoredObject.calls_upsert hv]
          exact .confirmed ho hstore
      | lost hput =>
        rw [update_of_put_error ho hv hput]
        exact .unconfirmed ho (.inr rfl)
      | refused hput =>
        rw [update_of_put_error ho hv hput]
        exact .unconfirmed ho (.inl rfl)

def HoldsNamed (k : ResourceKind) (name : String) (held : Option Json) : Prop :=
  ∃ o : StoredObject, o.kind = k ∧ o.name = name ∧ held = some o.payload

def SendsOnly (k : ResourceKind) (name : String) (calls : List Call) : Prop :=
  ∀ id payload path, .put id payload path ∈ calls →
    payload.field? k.nameKey = some (.string name)

def Sends (k : ResourceKind) (name : String) (calls : List Call) : Prop :=
  ∃ id payload path, .put id payload path ∈ calls ∧
    payload.field? k.nameKey = some (.string name)

structure KeepsName (k : ResourceKind) (name : String) (outcome : Outcome)
    (next : Option Json) : Prop where
  state : k.Named name outcome.state
  held : k.HoldsNamed name next
  sent : k.SendsOnly name outcome.calls

theorem Named.withId (h : k.Named name s) (id : Option String) :
    k.Named name { s with id := id } := ⟨h.given, h.stored⟩

theorem Named.name_eq (h : k.Named name s) (ho : k.toObject s format = .ok o) : o.name = name := by
  have hname := h.fullName format
  rw [fullName_of_toObject ho] at hname
  exact Except.ok.inj hname

theorem Named.setOptional (h : k.Named name s) {field : String} {value : Option AttributeValue}
    (hname : field ≠ k.nameField) (hfull : field ≠ k.fullNameField) :
    k.Named name (s.setOptional field value) := by
  refine ⟨?_, ?_⟩
  · rw [ResourceState.get?_setOptional, if_neg hname.symm, ResourceState.prior_setOptional]
    exact h.given
  · rw [ResourceState.get?_setOptional, if_neg hfull.symm]
    exact h.stored

theorem Named.accept (h : k.Named o.name s) {calls : List Call} :
    k.Named o.name (k.accept s calls o).state := by
  obtain ⟨given, hgiven, -⟩ := h.given
  unfold ResourceKind.accept
  split
  · rename_i stored hstore
    exact named_commit hstore hgiven
  · rename_i left e hstore
    have hleft := state_of_store_error (congrArg Prod.snd hstore)
    rw [hstore] at hleft
    rwa [← hleft] at h

theorem sendsOnly_put (hk : o.kind = k) : k.SendsOnly o.name [.put o.id o.payload o.path] := by
  intro id payload path h
  cases List.mem_singleton.mp h
  rw [← hk]
  exact field?_nameKey_payload o

theorem keepsName_of_confirmed (ho : k.toObject s format = .ok o)
    (hstore : k.store o s = (t, .ok ())) :
    k.KeepsName o.name ⟨[.put o.id o.payload o.path], t.commit, .ok ()⟩ (some o.payload) := by
  obtain ⟨hkind, -⟩ := kind_id_of_toObject ho
  obtain ⟨given, hgiven⟩ := NameFormat.exists_given_of_fullName (fullName_of_toObject ho)
  exact ⟨named_commit hstore hgiven, ⟨o, hkind, rfl, rfl⟩, sendsOnly_put hkind⟩

theorem UpdateEnds.keepsName (h : k.UpdateEnds format s held outcome next) (hn : k.Named name s)
    (hh : k.HoldsNamed name held) : k.KeepsName name outcome next := by
  cases h with
  | unsent => exact ⟨hn, hh, nofun⟩
  | unconfirmed ho hnext =>
    obtain rfl := hn.name_eq ho
    obtain ⟨hkind, -⟩ := kind_id_of_toObject ho
    refine ⟨hn, ?_, sendsOnly_put hkind⟩
    rcases hnext with rfl | rfl
    · exact hh
    · exact ⟨_, hkind, rfl, rfl⟩
  | confirmed ho hstore =>
    obtain rfl := hn.name_eq ho
    exact keepsName_of_confirmed ho hstore

theorem UpdateEnds.keepsName_of_ok (h : k.UpdateEnds format s held outcome next)
    (hok : outcome.result = .ok ()) (hsent : k.Sends name outcome.calls) :
    k.KeepsName name outcome next := by
  cases h with
  | unsent => cases hok
  | unconfirmed => cases hok
  | @confirmed o _ ho hstore =>
    have hkeeps := keepsName_of_confirmed ho hstore
    have hname : o.name = name := by
      obtain ⟨id, payload, path, hmem, hfield⟩ := hsent
      rw [hkeeps.sent id payload path hmem] at hfield
      cases hfield
      rfl
    rwa [hname] at hkeeps

theorem AsksById.put_notMem {request : (id path : String) → Call}
    (h : k.AsksById request s outcome) (hrequest : ∀ id path, (request id path).isPut = false) :
    ∀ id payload path, .put id payload path ∉ outcome.calls := by
  intro id payload path hmem
  rcases h.calls_eq with h | ⟨id', h⟩
  · rw [h] at hmem
    cases hmem
  · rw [h] at hmem
    have hput := hrequest id' k.path
    rw [← List.mem_singleton.mp hmem] at hput
    cases hput

theorem AsksById.keepsName {request : (id path : String) → Call}
    (ha : k.AsksById request s outcome) (hrequest : ∀ id path, (request id path).isPut = false)
    (h : client.Serves held outcome.calls next) (hn : k.Named name outcome.state)
    (hh : k.HoldsNamed name held) : k.KeepsName name outcome next := by
  have hputs := ha.put_notMem hrequest
  obtain rfl := h.next_eq hputs
  exact ⟨hn, hh, fun id payload path hmem => absurd hmem (hputs id payload path)⟩

theorem named_read (hn : k.Named name s) (hh : k.HoldsNamed name held)
    (h : client.Serves held (k.read client s).calls next) :
    k.Named name (k.read client s).state := by
  cases hid : s.id with
  | none =>
    rw [read_of_missingId hid]
    exact hn
  | some id =>
    rw [calls_read hid] at h
    cases hr : (k.fetch client id).result with
    | error e =>
      cases he : e.isNotFound with
      | true =>
        rw [read_of_notFound hid hr he]
        exact hn.withId none
      | false =>
        rw [read_of_failed hid hr he]
        exact hn
    | ok found =>
      rw [read_of_found hid hr]
      rw [result_fetch] at hr
      cases h with
      | found hget hheld hb =>
        obtain ⟨o, rfl, rfl, hpayload⟩ := hh
        cases hheld.symm.trans hpayload
        rw [hget] at hr
        obtain rfl := StoredObject.eq_of_receive hb hr
        exact hn.accept
      | missed hget =>
        rw [hget, receive_error] at hr
        cases hr

theorem named_delete (hn : k.Named name s) : k.Named name (k.delete client s).state := by
  cases hid : s.id with
  | none =>
    rw [delete_of_missingId hid]
    exact hn
  | some id =>
    cases hr : (k.deleteById client id).result with
    | ok _ =>
      rw [delete_of_deleted hid hr]
      exact hn.withId none
    | error e =>
      rw [delete_of_failed hid hr]
      exact hn

theorem keepsName_perform (hn : k.Named name s) (hh : k.HoldsNamed name held)
    {operation : Operation} (hspare : operation.Spares k)
    (h : Event.Served held ⟨operation, s, k.perform s operation⟩ next) :
    k.KeepsName name (k.perform s operation) next := by
  cases operation with
  | create client format freshId =>
    have h : client.Serves held (k.create client format freshId s).calls next := h
    rw [create_eq] at h
    rw [perform, create_eq]
    exact (updateEnds_of_serves h).keepsName (hn.withId _) hh
  | read client => exact asksById_read.keepsName (fun _ _ => rfl) h (named_read hn hh h) hh
  | update client format => exact (updateEnds_of_serves h).keepsName hn hh
  | delete client => exact asksById_delete.keepsName (fun _ _ => rfl) h (named_delete hn) hh
  | assign field value =>
    cases h
    refine ⟨hn.setOptional hspare.1 hspare.2, hh, ?_⟩
    intro id payload path hmem
    cases hmem

theorem keepsName_of_sends {operation : Operation}
    (h : Event.Served held ⟨operation, s, k.perform s operation⟩ next)
    (hok : (k.perform s operation).result = .ok ())
    (hsent : k.Sends name (k.perform s operation).calls) :
    k.KeepsName name (k.perform s operation) next := by
  cases operation with
  | create client format freshId =>
    have h : client.Serves held (k.create client format freshId s).calls next := h
    rw [perform, create_eq] at hok hsent ⊢
    rw [create_eq] at h
    exact (updateEnds_of_serves h).keepsName_of_ok hok hsent
  | update client format => exact (updateEnds_of_serves h).keepsName_of_ok hok hsent
  | read client =>
    obtain ⟨id, payload, path, hmem, -⟩ := hsent
    exact absurd hmem (asksById_read.put_notMem (fun _ _ => rfl) id payload path)
  | delete client =>
    obtain ⟨id, payload, path, hmem, -⟩ := hsent
    exact absurd hmem (asksById_delete.put_notMem (fun _ _ => rfl) id payload path)
  | assign field value =>
    obtain ⟨id, payload, path, hmem, -⟩ := hsent
    cases hmem

theorem run_sendsOnly {operations : List Operation} (hn : k.Named name s)
    (hh : k.HoldsNamed name held) (hspare : ∀ operation ∈ operations, operation.Spares k)
    (hserved : Served held (k.run s operations)) :
    ∀ event ∈ k.run s operations, k.SendsOnly name event.outcome.calls := by
  -- each operation hands on the name in the state and at the API, whether it fails or not
  induction operations generalizing s held with
  | nil =>
    intro event h
    cases h
  | cons operation rest ih =>
    obtain ⟨hfirst, hrest⟩ := List.forall_mem_cons.mp hspare
    cases hserved with
    | cons h hserved =>
      have hkeeps := keepsName_perform hn hh hfirst h
      exact List.forall_mem_cons.mpr ⟨hkeeps.sent, ih hkeeps.state hkeeps.held hrest hserved⟩

/-- Once an operation of a run succeeded and sent a name, all that is sent later carries that name,
whatever the formats, the fresh ids and the failures: an object is never renamed because the format
of names changed. -/
theorem stored_name_stays (k : ResourceKind) (s : ResourceState) (operations : List Operation)
    (hspare : ∀ operation ∈ operations, operation.Spares k) (held : Option Json)
    (hserved : Served held (k.run s operations)) {before behind : List Event} {event : Event}
    (hrun : k.run s operations = before ++ event :: behind) (hok : event.outcome.result = .ok ())
    (hsent : k.Sends name event.outcome.calls) :
    ∀ later ∈ behind, k.SendsOnly name later.outcome.calls := by
  induction operations generalizing s held before with
  | nil => cases before <;> cases hrun
  | cons operation rest ih =>
    obtain ⟨-, hrest⟩ := List.forall_mem_cons.mp hspare
    cases hserved with
    | cons h hserved =>
      cases before with
      | nil =>
        cases hrun
        have hkeeps := keepsName_of_sends h hok hsent
        exact run_sendsOnly hkeeps.state hkeeps.held hrest hserved
      | cons first others =>
        rw [run, List.cons_append] at hrun
        exact ih _ hrest _ hserved (List.cons.inj hrun).2

def opsRun : List Operation :=
  [.create .unreachable ⟨"dev ", ""⟩ "fresh", .update .echo ⟨"", ""⟩, .update .echo ⟨"test ", ""⟩]

theorem stored_name_stays_ops :
    ∃ failed first later, (alertingChannel .email).run opsState opsRun = [failed, first, later] ∧
      first.outcome.result = .ok () ∧
      (alertingChannel .email).Sends "ops" first.outcome.calls ∧
      later.outcome.calls = [.put "ops" (StoredObject.alertingChannel Collection.opsChannel).payload
        (alertingChannel .email).path] ∧
      (alertingChannel .email).SendsOnly "ops" later.outcome.calls := by
  have hserved : Served none ((alertingChannel .email).run opsState opsRun) := by
    apply Served.of_forgetful
    have hunreachable : Client.unreachable.Forgetful :=
      ⟨fun _ _ _ => .inl ⟨_, rfl⟩, fun _ _ => ⟨_, rfl⟩⟩
    have hecho : Client.echo.Forgetful :=
      ⟨fun _ _ _ => .inr ⟨.compact, rfl⟩, fun _ _ => ⟨_, rfl⟩⟩
    simp only [opsRun, List.forall_mem_cons, Operation.client?, Option.some.injEq, forall_eq']
    exact ⟨hunreachable, hecho, hecho, nofun⟩
  have hspare : ∀ operation ∈ opsRun, operation.Spares (alertingChannel .email) := by
    simp only [opsRun, List.forall_mem_cons]
    exact ⟨trivial, trivial, trivial, nofun⟩
  have hmapped : (alertingChannel .email).toObject opsState ⟨"", ""⟩ =
      .ok (.alertingChannel Collection.opsChannel) := rfl
  obtain ⟨stored, hstore, hupdate⟩ :=
    exists_update_of_echoes Client.echoes_echo hmapped rfl (by decide)
  have hagain : (alertingChannel .email).toObject stored.commit ⟨"test ", ""⟩ =
      .ok (.alertingChannel Collection.opsChannel) := by
    cases hstore
    rfl
  have hsent : (alertingChannel .email).Sends "ops"
      ((alertingChannel .email).update .echo ⟨"", ""⟩ opsState).calls := by
    rw [hupdate]
    exact ⟨_, _, _, .head _, field?_nameKey_payload (.alertingChannel Collection.opsChannel)⟩
  have hok := congrArg Outcome.result hupdate
  have hcalls : ((alertingChannel .email).update .echo ⟨"test ", ""⟩ stored.commit).calls = _ :=
    (calls_update hagain).trans (StoredObject.calls_upsert rfl)
  have hstate : ((alertingChannel .email).update .echo ⟨"", ""⟩ opsState).state = stored.commit :=
    congrArg Outcome.state hupdate
  rw [← hstate] at hcalls
  have hrun : (alertingChannel .email).run opsState opsRun = [_] ++ _ :: [_] := rfl
  exact ⟨_, _, _, hrun, hok, hsent, hcalls,
    stored_name_stays _ opsState opsRun hspare none hserved hrun hok hsent _ (.head _)⟩

end ResourceKind

end Monitoring
