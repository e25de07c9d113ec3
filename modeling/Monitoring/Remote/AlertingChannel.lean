import Monitoring.Remote.Basic

namespace Monitoring

inductive ChannelKind
  | email
  | slack
  | webHook
  deriving DecidableEq, Repr

namespace ChannelKind

def name : ChannelKind → String
  | email => "EMAIL"
  | slack => "SLACK"
  | webHook => "WEB_HOOK"

def ofName? (s : String) : Option ChannelKind := [email, slack, webHook].find? fun k => k.name = s

def ofJson? : Json → Option ChannelKind
  | .string s => ofName? s
  | .object [(s, .null)] => ofName? s
  | _ => none

end ChannelKind

structure AlertingChannel where
  id : String
  name : String
  kind : ChannelKind
  emails : List String
  webhookUrl : Option String
  webhookUrls : List String
  iconUrl : Option String
  channel : Option String
  deriving DecidableEq, Repr

namespace AlertingChannel

def bare (id name : String) (kind : ChannelKind) : AlertingChannel :=
  ⟨id, name, kind, [], none, [], none, none⟩

def maxNameLength : Nat := 256

open Validation in
def validate (c : AlertingChannel) : Check := do
  nonBlank "ID" c.id
  nonBlank "Name" c.name
  maxLength "Name" c.name maxNameLength
  match c.kind with
  | .email => do
    notEmpty "Emails" c.emails
    unique "Emails" c.emails
  | .slack => nonBlank "WebhookURL" (c.webhookUrl.getD "")
  | .webHook => do
    notEmpty "WebhookURLs" c.webhookUrls
    unique "WebhookURLs" c.webhookUrls

open Json in
def toJson (c : AlertingChannel) : Json :=
  .object ([("id", .string c.id), ("name", .string c.name), ("kind", .string c.kind.name)] ++
    nonEmptyField "emails" c.emails ++ optionalField "webhookUrl" c.webhookUrl ++
    nonEmptyField "webhookUrls" c.webhookUrls ++ optionalField "iconUrl" c.iconUrl ++
    optionalField "channel" c.channel)

open Json in
def ofJson? (j : Json) : Option AlertingChannel := do
  let fields ← j.named? ["id", "name", "kind", "emails", "webhookUrl", "webhookUrls", "iconUrl",
    "channel"]
  return {
    id := ← required string? "id" fields
    name := ← required string? "name" fields
    kind := ← required ChannelKind.ofJson? "kind" fields
    emails := ← stringsOrEmpty "emails" fields
    webhookUrl := ← optional string? "webhookUrl" fields
    webhookUrls := ← stringsOrEmpty "webhookUrls" fields
    iconUrl := ← optional string? "iconUrl" fields
    channel := ← optional string? "channel" fields }

instance : Storable AlertingChannel where
  path := "/events/settings/alertingChannels"
  id := id
  validate := validate
  toJson := toJson
  ofJson? := ofJson?

end AlertingChannel

end Monitoring
