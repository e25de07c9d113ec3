import Monitoring.Resource.AlertingMapping
import Monitoring.Resource.ApplicationMapping
import Monitoring.Resource.ChannelMapping

namespace Monitoring

inductive ResourceKind
  | alertingChannel (kind : ChannelKind)
  | alertingConfiguration
  | applicationConfig
  deriving DecidableEq, Repr

inductive StoredObject
  | alertingChannel (o : AlertingChannel)
  | alertingConfiguration (o : AlertingConfiguration)
  | applicationConfig (o : ApplicationConfig)
  deriving DecidableEq, Repr

namespace StoredObject

def id : StoredObject → String
  | alertingChannel o => o.id
  | alertingConfiguration o => o.id
  | applicationConfig o => o.id

def setId (id : String) : StoredObject → StoredObject
  | alertingChannel o => alertingChannel { o with id }
  | alertingConfiguration o => alertingConfiguration { o with id }
  | applicationConfig o => applicationConfig { o with id }

def path : StoredObject → String
  | alertingChannel _ => Storable.path AlertingChannel
  | alertingConfiguration _ => Storable.path AlertingConfiguration
  | applicationConfig _ => Storable.path ApplicationConfig

def validate : StoredObject → Validation.Check
  | alertingChannel o => o.validate
  | alertingConfiguration o => o.validate
  | applicationConfig o => o.validate

def payload : StoredObject → Json
  | alertingChannel o => o.toJson.canonical
  | alertingConfiguration o => o.toJson.canonical
  | applicationConfig o => o.toJson.canonical

def description : StoredObject → String
  | alertingChannel _ => "alerting channel"
  | alertingConfiguration _ => "alerting configuration"
  | applicationConfig _ => "application config"

end StoredObject

namespace ResourceKind

def all : List ResourceKind :=
  [alertingChannel .email, alertingChannel .slack, alertingChannel .webHook,
   alertingConfiguration, applicationConfig]

def typeName : ResourceKind → String
  | alertingChannel .email => "instana_alerting_channel_email"
  | alertingChannel .slack => "instana_alerting_channel_slack"
  | alertingChannel .webHook => "instana_alerting_channel_webhook"
  | alertingConfiguration => "instana_alerting_config"
  | applicationConfig => "instana_application_config"

def ofTypeName? (name : String) : Option ResourceKind := all.find? fun k => k.typeName = name

def schema : ResourceKind → Schema
  | alertingChannel kind => AlertingChannel.schema kind
  | alertingConfiguration => AlertingConfiguration.schema
  | applicationConfig => ApplicationConfig.schema

def schemasJson : Json := .object (all.map fun k => (k.typeName, k.schema.toJson))

def toObject (k : ResourceKind) (s : ResourceState) (format : NameFormat) :
    Except ResourceError StoredObject :=
  match k with
  | alertingChannel kind =>
    ((AlertingChannel.ofState kind s format).mapError .state).map .alertingChannel
  | alertingConfiguration =>
    ((AlertingConfiguration.ofState s format).mapError .state).map .alertingConfiguration
  | applicationConfig => (ApplicationConfig.ofState s format).map .applicationConfig

def store (k : ResourceKind) (o : StoredObject) (s : ResourceState) :
    ResourceState × Except ResourceError Unit :=
  match k, o with
  | alertingChannel kind, .alertingChannel c =>
    if c.kind = kind then (c.store s, .ok ())
    else (s, .error (.kindMismatch k.typeName o.description))
  | alertingConfiguration, .alertingConfiguration c => (c.store s, .ok ())
  | applicationConfig, .applicationConfig c => c.store s
  | _, _ => (s, .error (.kindMismatch k.typeName o.description))

def updateState (k : ResourceKind) (s : ResourceState) (o : StoredObject) :
    Except ResourceError ResourceState :=
  let (updated, result) := k.store o s
  result.map fun () => updated

end ResourceKind

end Monitoring
