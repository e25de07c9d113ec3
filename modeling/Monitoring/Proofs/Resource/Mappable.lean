import Monitoring.Proofs.Resource.ApplicationMapping
import Monitoring.Proofs.Resource.Configuring

namespace Monitoring

def ResourceState.listed (s : ResourceState) (name : String) : List String :=
  match s.get? name with
  | some (.list items) => items.filterMap AttributeValue.string?
  | _ => []

theorem ResourceState.listed_of_get? {s : ResourceState} {name : String} {items : List String}
    (h : s.get? name = some (.strings items)) : s.listed name = items := by
  rw [listed, h, AttributeValue.strings]
  dsimp only
  rw [List.filterMap_map]
  exact List.filterMap_some

namespace Schema

def Declares (schema : Schema) (name : String) (type : FieldType) (presence : Presence) : Prop :=
  ∃ f ∈ schema, f.name = name ∧ f.type = type ∧ f.presence = presence

instance (schema : Schema) (name : String) (type : FieldType) (presence : Presence) :
    Decidable (schema.Declares name type presence) :=
  inferInstanceAs (Decidable (∃ f ∈ schema, f.name = name ∧ f.type = type ∧ f.presence = presence))

namespace Fits

variable {schema : Schema} {s : ResourceState} {name : String} {presence : Presence}

theorem exists_string (h : schema.Fits s) (hd : schema.Declares name .string .required) :
    ∃ text, s.get? name = some (.string text) := by
  obtain ⟨f, hf, rfl, htype, hpresence⟩ := hd
  obtain ⟨value, hvalue⟩ := (h f hf).present hpresence
  have hadmits := (h f hf).typed value hvalue
  rw [htype] at hadmits
  cases hadmits with
  | string text => exact ⟨text, hvalue⟩

theorem exists_string? (h : schema.Fits s) (hd : schema.Declares name .string presence) :
    ∃ o, s.string? name = .ok o := by
  obtain ⟨f, hf, rfl, htype, -⟩ := hd
  cases hget : s.get? f.name with
  | none => exact ⟨none, ResourceState.string?_of_get? hget⟩
  | some value =>
    have hadmits := (h f hf).typed value hget
    rw [htype] at hadmits
    cases hadmits with
    | string text => exact ⟨some text, ResourceState.string?_of_get? hget⟩

theorem stringList_eq (h : schema.Fits s) {type : FieldType}
    (hd : schema.Declares name type presence) (htype : type ≠ .string) :
    s.stringList name = .ok (s.listed name) := by
  obtain ⟨f, hf, rfl, rfl, -⟩ := hd
  cases hget : s.get? f.name with
  | none => rw [ResourceState.stringList, ResourceState.listed, hget]
  | some value =>
    have hadmits := (h f hf).typed value hget
    generalize f.type = type at htype hadmits
    cases hadmits with
    | string text => exact absurd rfl htype
    | stringList items =>
      rw [ResourceState.stringList_of_get? hget, ResourceState.listed_of_get? hget]
    | stringSet items =>
      rw [ResourceState.stringList_of_get? hget, ResourceState.listed_of_get? hget]

theorem exists_fullName (h : schema.Fits s) {nameField fullNameField : String}
    (hname : schema.Declares nameField .string .required)
    (hfull : schema.Declares fullNameField .string .computed) (format : NameFormat) :
    ∃ name, format.fullName s nameField fullNameField = .ok name := by
  obtain ⟨given, hgiven⟩ := h.exists_string hname
  obtain ⟨stored, hstored⟩ := h.exists_string? hfull
  rw [NameFormat.fullName, ResourceState.requiredString_of_get? hgiven, hstored]
  cases stored <;> exact ⟨_, rfl⟩

end Fits

end Schema

section Kinds

variable {s t : ResourceState} {format : NameFormat} {err : ResourceError}

theorem AlertingChannel.exists_ofState {kind : ChannelKind} (h : (schema kind).Fits s)
    (format : NameFormat) : ∃ c, ofState kind s format = .ok c := by
  have hnamed : (schema kind).Declares "name" .string .required ∧
      (schema kind).Declares "full_name" .string .computed := by
    cases kind <;> decide
  obtain ⟨name, hname⟩ := h.exists_fullName hnamed.1 hnamed.2 format
  have hlist : FieldType.stringList ≠ .string := by decide
  rw [ofState, hname, Result.ok_bind]
  cases kind with
  | email =>
    have hd : (schema .email).Declares "emails" .stringList .required := by decide
    rw [h.stringList_eq hd hlist]
    exact ⟨_, rfl⟩
  | slack =>
    have hurl : (schema .slack).Declares "webhook_url" .string .required := by decide
    have hicon : (schema .slack).Declares "icon_url" .string .optional := by decide
    have hchannel : (schema .slack).Declares "channel" .string .optional := by decide
    obtain ⟨url, hurl⟩ := h.exists_string? hurl
    obtain ⟨icon, hicon⟩ := h.exists_string? hicon
    obtain ⟨channel, hchannel⟩ := h.exists_string? hchannel
    rw [hurl, hicon, hchannel]
    exact ⟨_, rfl⟩
  | webHook =>
    have hd : (schema .webHook).Declares "webhook_urls" .stringList .required := by decide
    rw [h.stringList_eq hd hlist]
    exact ⟨_, rfl⟩

theorem AlertingConfiguration.exists_ofState_eq (h : schema.Fits s) (format : NameFormat) :
    ∃ name query, ofState s format =
      .ok ⟨s.id.getD "", name, ResourceState.firstOccurrences [] (s.listed "integration_ids"),
        ⟨query, ResourceState.firstOccurrences [] (s.listed "event_filter_rule_ids"),
          (ResourceState.firstOccurrences [] (s.listed "event_filter_event_types")).map
            EventType.harmonized⟩⟩ := by
  have hname : schema.Declares "alert_name" .string .required := by decide
  have hfull : schema.Declares "full_alert_name" .string .computed := by decide
  have htypes : schema.Declares "event_filter_event_types" .stringSet .optional := by decide
  have hids : schema.Declares "integration_ids" .stringSet .required := by decide
  have hquery : schema.Declares "event_filter_query" .string .optional := by decide
  have hrules : schema.Declares "event_filter_rule_ids" .stringSet .optional := by decide
  obtain ⟨name, hname⟩ := h.exists_fullName hname hfull format
  obtain ⟨query, hquery⟩ := h.exists_string? hquery
  refine ⟨name, query, ?_⟩
  have hset : FieldType.stringSet ≠ .string := by decide
  rw [ofState, hname, ResourceState.stringSet, h.stringList_eq htypes hset,
    ResourceState.stringSet, h.stringList_eq hids hset, hquery, ResourceState.stringSet,
    h.stringList_eq hrules hset]
  rfl

namespace ApplicationConfig

variable {text : String}

inductive Refused (text : String) : ResourceError → Prop
  | unreadable {e : ParseError} (h : Expression.parse text = .error e) : Refused text (.parse e)
  | unmappable {x : Expression} {e : MappingError} (hparse : Expression.parse text = .ok x)
      (h : x.toSpecification = .error e) : Refused text (.mapping e)

theorem specificationOf_eq_error_iff : specificationOf text = .error err ↔ Refused text err := by
  rw [specificationOf, Result.bind_eq_error_iff]
  simp only [Result.mapError_eq_ok_iff, Result.mapError_eq_error_iff]
  constructor
  · rintro (⟨e, he, rfl⟩ | ⟨x, hx, e, he, rfl⟩)
    · exact .unreadable he
    · exact .unmappable hx he
  · rintro (he | ⟨hx, he⟩)
    · exact .inl ⟨_, he, rfl⟩
    · exact .inr ⟨_, hx, _, he, rfl⟩

theorem ofState_eq_error_iff (h : schema.Fits s) :
    ofState s format = .error err ↔
      ∃ text, s.get? "match_specification" = some (.string text) ∧ Refused text err := by
  have hlabel : schema.Declares "label" .string .required := by decide
  have hfull : schema.Declares "full_label" .string .computed := by decide
  have htext : schema.Declares "match_specification" .string .required := by decide
  have hscope : schema.Declares "scope" .string .optional := by decide
  have hboundary : schema.Declares "boundary_scope" .string .optional := by decide
  obtain ⟨label, hlabel⟩ := h.exists_fullName hlabel hfull format
  obtain ⟨text, htext⟩ := h.exists_string htext
  obtain ⟨scope, hscope⟩ := h.exists_string? hscope
  obtain ⟨boundary, hboundary⟩ := h.exists_string? hboundary
  have hrefused : ofState s format = .error err ↔ specificationOf text = .error err := by
    rw [ofState, hlabel, ResourceState.requiredString_of_get? htext, hscope, hboundary]
    simp only [Result.mapError_ok, Result.ok_bind]
    cases specificationOf text with
    | error e => rw [Result.error_bind, Except.error.injEq, Except.error.injEq]
    | ok m =>
      rw [Result.ok_bind]
      constructor
      · intro h
        cases h
      · intro h
        cases h
  rw [hrefused, specificationOf_eq_error_iff, htext]
  constructor
  · intro hr
    exact ⟨text, rfl, hr⟩
  · rintro ⟨other, hother, hr⟩
    cases hother
    exact hr

end ApplicationConfig

namespace ResourceKind

variable {k : ResourceKind}

theorem consistent_schema (k : ResourceKind) : k.schema.Consistent :=
  ⟨forall_of_all (by decide) k, forall_of_all (by decide) k, forall_of_all (by decide) k⟩

theorem fits_of_conform (h : k.schema.conform s = (t, .ok ())) : k.schema.Fits t := by
  obtain ⟨hallows, hcompletes⟩ := (Schema.conform_eq_ok_iff k.consistent_schema).mp h
  exact hcompletes.fits k.consistent_schema hallows.fits

theorem toObject_eq_error_iff (h : k.schema.Fits s) :
    k.toObject s format = .error err ↔ k = .applicationConfig ∧
      ∃ text, s.get? "match_specification" = some (.string text) ∧
        ApplicationConfig.Refused text err := by
  cases k with
  | alertingChannel kind =>
    obtain ⟨c, hc⟩ := AlertingChannel.exists_ofState h format
    rw [toObject, hc]
    exact iff_of_false nofun fun ⟨hk, _⟩ => nomatch hk
  | alertingConfiguration =>
    obtain ⟨name, query, hc⟩ := AlertingConfiguration.exists_ofState_eq h format
    rw [toObject, hc]
    exact iff_of_false nofun fun ⟨hk, _⟩ => nomatch hk
  | applicationConfig =>
    rw [toObject, Result.map_eq_error_iff, ApplicationConfig.ofState_eq_error_iff h, eq_self,
      true_and]

/-- The check passes exactly what the schema allows, and completes it for good. What it passed maps
to an object, unless it is an application configuration whose match specification is refused. -/
theorem conform_completes (k : ResourceKind) (s : ResourceState) :
    ((∃ t, k.schema.conform s = (t, .ok ())) ↔ k.schema.Allows s) ∧
      ∀ t, k.schema.conform s = (t, .ok ()) →
        k.schema.Completes s t ∧ k.schema.conform t = (t, .ok ()) ∧
          ∀ format err, k.toObject t format = .error err ↔ k = .applicationConfig ∧
            ∃ text, t.get? "match_specification" = some (.string text) ∧
              ApplicationConfig.Refused text err := by
  have hc := k.consistent_schema
  refine ⟨Schema.exists_conform_iff hc, fun t ht => ?_⟩
  obtain ⟨-, hcompletes⟩ := (Schema.conform_eq_ok_iff hc).mp ht
  exact ⟨hcompletes, Schema.conform_conformed hc ht,
    fun _ _ => toObject_eq_error_iff (fits_of_conform ht)⟩

theorem conform_completes_shopState :
    ∃ t, applicationConfig.schema.conform (ApplicationConfig.shopState "zone EQUALS") =
        (t, .ok ()) ∧
      t.attributes.names = ["label", "match_specification", "scope", "boundary_scope"] ∧
      applicationConfig.schema.conform t = (t, .ok ()) ∧
      applicationConfig.toObject t ⟨"", ""⟩ =
        .error (.parse ⟨.missingValue .equals .endOfInput, 11⟩) := by
  have hspec := conform_completes applicationConfig (ApplicationConfig.shopState "zone EQUALS")
  refine ⟨_, rfl, ?_⟩
  obtain ⟨hcompletes, hagain, herror⟩ := hspec.2 _ rfl
  have hparse : Expression.parse "zone EQUALS" =
      .error ⟨.missingValue .equals .endOfInput, 11⟩ := by decide +kernel
  have hgiven : (ApplicationConfig.shopState "zone EQUALS").get? "match_specification" =
      some (.string "zone EQUALS") := rfl
  have hrefused := (herror ⟨"", ""⟩ _).mpr
    ⟨rfl, _, hcompletes.get?_of_get? hgiven, .unreadable hparse⟩
  exact ⟨by decide, hagain, hrefused⟩

end ResourceKind

end Kinds

end Monitoring
