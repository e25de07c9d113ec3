import Monitoring.Remote.AlertingChannel
import Monitoring.Resource.Schema
import Monitoring.State.NameFormat

namespace Monitoring.AlertingChannel

def nameField : Field := .required "name" .string "name of the alerting channel"

def fullNameField : Field :=
  .computed "full_name" "name of the alerting channel including the configured prefix and suffix"

def schema : ChannelKind → Schema
  | .email =>
    [nameField, fullNameField, .required "emails" .stringList "email addresses to notify"]
  | .slack =>
    [nameField, fullNameField, .required "webhook_url" .string "slack webhook url",
     .optional "icon_url" .string "icon shown with the message",
     .optional "channel" .string "slack channel to post to"]
  | .webHook => [nameField, fullNameField, .required "webhook_urls" .stringList "urls to call"]

def ofState (kind : ChannelKind) (s : ResourceState) (format : NameFormat) :
    Except StateError AlertingChannel := do
  let name ← format.fullName s "name" "full_name"
  let c := bare (s.id.getD "") name kind
  match kind with
  | .email => return { c with emails := ← s.stringList "emails" }
  | .slack =>
    return { c with
      webhookUrl := ← s.string? "webhook_url"
      iconUrl := ← s.string? "icon_url"
      channel := ← s.string? "channel" }
  | .webHook => return { c with webhookUrls := ← s.stringList "webhook_urls" }

def store (c : AlertingChannel) (s : ResourceState) : ResourceState :=
  let s := (s.setId c.id).set "full_name" (.string c.name)
  match c.kind with
  | .email => s.set "emails" (.strings c.emails)
  | .slack =>
    ((s.setOptional "webhook_url" (c.webhookUrl.map .string)).setOptional "icon_url"
      (c.iconUrl.map .string)).setOptional "channel" (c.channel.map .string)
  | .webHook => s.set "webhook_urls" (.strings c.webhookUrls)

end Monitoring.AlertingChannel
