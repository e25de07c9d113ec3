import Monitoring.Json.Reader
import Monitoring.Remote.Basic

namespace Monitoring

inductive Shape
  | singleObject
  | arrayOfObjects
  deriving DecidableEq, Repr

namespace Shape

def describe : Shape → String
  | singleObject => "a single object"
  | arrayOfObjects => "an array of objects"

end Shape

inductive RemoteError
  | validation (e : ValidationError)
  | malformed (path : String)
  | unexpectedShape (path : String) (expected : Shape)
  | transport (e : TransportError)
  deriving DecidableEq, Repr

namespace RemoteError

def message : RemoteError → String
  | validation e => e.message
  | malformed path => s!"response of {path} is not valid"
  | unexpectedShape path expected => s!"response of {path} is not {expected.describe}"
  | transport e => e.message

def isNotFound : RemoteError → Bool
  | transport e => e.isNotFound
  | _ => false

end RemoteError

structure Exchange (α : Type) where
  calls : List Call
  result : Except RemoteError α

namespace Collection

def bodyJson (path : String) (body : ByteArray) : Except RemoteError Json :=
  match (String.fromUTF8? body).bind Json.parse with
  | some j => .ok j.canonical
  | none => .error (.malformed path)

variable {α : Type} [Storable α]

def objectOfJson (α : Type) [Storable α] : Json → Except RemoteError α
  | .object fields => do
    match Storable.ofJson? (α := α) (.object fields) with
    | none => .error (.malformed (Storable.path α))
    | some o =>
      match Storable.validate o with
      | .error e => .error (.validation e)
      | .ok () => return o
  | _ => .error (.unexpectedShape (Storable.path α) .singleObject)

def objectOfBody (α : Type) [Storable α] (body : ByteArray) : Except RemoteError α := do
  objectOfJson α (← bodyJson (Storable.path α) body)

def objectsOfBody (α : Type) [Storable α] (body : ByteArray) : Except RemoteError (List α) := do
  match ← bodyJson (Storable.path α) body with
  | .array items => items.mapM (objectOfJson α)
  | _ => .error (.unexpectedShape (Storable.path α) .arrayOfObjects)

def answer {β γ : Type} (read : β → Except RemoteError γ) (a : Except TransportError β) :
    Except RemoteError γ :=
  match a with
  | .error e => .error (.transport e)
  | .ok b => read b

def getOne (α : Type) [Storable α] (client : Client) (id : String) : Exchange α :=
  let path := Storable.path α
  ⟨[.getOne id path], answer (objectOfBody α) (client.getOne id path)⟩

def getAll (α : Type) [Storable α] (client : Client) : Exchange (List α) :=
  let path := Storable.path α
  ⟨[.getAll path], answer (objectsOfBody α) (client.getAll path)⟩

def upsert (client : Client) (o : α) : Exchange α :=
  match Storable.validate o with
  | .error e => ⟨[], .error (.validation e)⟩
  | .ok () =>
    let path := Storable.path α
    let id := Storable.id o
    let payload := (Storable.toJson o).canonical
    ⟨[.put id payload path], answer (objectOfBody α) (client.put id payload path)⟩

def deleteById (α : Type) [Storable α] (client : Client) (id : String) : Exchange Unit :=
  let path := Storable.path α
  ⟨[.delete id path], answer .ok (client.delete id path)⟩

def delete (client : Client) (o : α) : Exchange Unit := deleteById α client (Storable.id o)

end Collection

end Monitoring
