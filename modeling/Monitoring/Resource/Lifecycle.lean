import Monitoring.Resource.Kind

namespace Monitoring

structure Outcome where
  calls : List Call
  state : ResourceState
  result : Except ResourceError Unit

namespace StoredObject

def mapExchange {α β : Type} (f : α → β) (x : Exchange α) : Exchange β :=
  ⟨x.calls, x.result.map f⟩

def upsert (client : Client) : StoredObject → Exchange StoredObject
  | alertingChannel o => mapExchange alertingChannel (Collection.upsert client o)
  | alertingConfiguration o => mapExchange alertingConfiguration (Collection.upsert client o)
  | applicationConfig o => mapExchange applicationConfig (Collection.upsert client o)

end StoredObject

namespace ResourceKind

def fetch (k : ResourceKind) (client : Client) (id : String) : Exchange StoredObject :=
  match k with
  | alertingChannel _ =>
    StoredObject.mapExchange .alertingChannel (Collection.getOne AlertingChannel client id)
  | alertingConfiguration =>
    StoredObject.mapExchange .alertingConfiguration
      (Collection.getOne AlertingConfiguration client id)
  | applicationConfig =>
    StoredObject.mapExchange .applicationConfig (Collection.getOne ApplicationConfig client id)

def deleteById (k : ResourceKind) (client : Client) (id : String) : Exchange Unit :=
  match k with
  | alertingChannel _ => Collection.deleteById AlertingChannel client id
  | alertingConfiguration => Collection.deleteById AlertingConfiguration client id
  | applicationConfig => Collection.deleteById ApplicationConfig client id

def accept (k : ResourceKind) (s : ResourceState) (calls : List Call) (o : StoredObject) :
    Outcome :=
  match k.store o s with
  | (updated, .ok ()) => ⟨calls, updated.commit, .ok ()⟩
  | (left, .error e) => ⟨calls, left, .error e⟩

def update (k : ResourceKind) (client : Client) (format : NameFormat) (s : ResourceState) :
    Outcome :=
  match k.toObject s format with
  | .error e => ⟨[], s, .error e⟩
  | .ok o =>
    let stored := o.upsert client
    match stored.result with
    | .error e => ⟨stored.calls, s, .error (.remote e)⟩
    | .ok o => k.accept s stored.calls o

/-- Like an update, under `freshId` if the state has no id yet. The id stays also if the update
fails. -/
def create (k : ResourceKind) (client : Client) (format : NameFormat) (freshId : String)
    (s : ResourceState) : Outcome :=
  k.update client format (if s.id.isNone then s.setId freshId else s)

def read (k : ResourceKind) (client : Client) (s : ResourceState) : Outcome :=
  match s.id with
  | none => ⟨[], s, .error (.missingId k.typeName)⟩
  | some id =>
    let found := k.fetch client id
    match found.result with
    | .ok o => k.accept s found.calls o
    | .error e =>
      if e.isNotFound then ⟨found.calls, s.clearId, .ok ()⟩
      else ⟨found.calls, s, .error (.remote e)⟩

def delete (k : ResourceKind) (client : Client) (s : ResourceState) : Outcome :=
  match s.id with
  | none => ⟨[], s, .error (.missingId k.typeName)⟩
  | some id =>
    let deleted := k.deleteById client id
    match deleted.result with
    | .ok () => ⟨deleted.calls, s.clearId, .ok ()⟩
    | .error e => ⟨deleted.calls, s, .error (.remote e)⟩

end ResourceKind

end Monitoring
