import Monitoring.Json.Record
import Monitoring.Validation

namespace Monitoring

class Storable (α : Type) where
  path : String
  id : α → String
  validate : α → Validation.Check
  toJson : α → Json
  ofJson? : Json → Option α

inductive TransportError
  | notFound (path id : String)
  | failed (path reason : String)
  deriving DecidableEq, Repr

namespace TransportError

def message : TransportError → String
  | notFound path id => s!"{path}/{id} does not exist"
  | failed path _ => s!"request against {path} failed"

def isNotFound : TransportError → Bool
  | notFound .. => true
  | failed .. => false

end TransportError

inductive Call
  | getOne (id path : String)
  | getAll (path : String)
  | put (id : String) (payload : Json) (path : String)
  | delete (id path : String)
  deriving Repr

structure Client where
  getOne : (id path : String) → Except TransportError ByteArray
  getAll : (path : String) → Except TransportError ByteArray
  put : (id : String) → (payload : Json) → (path : String) → Except TransportError ByteArray
  delete : (id path : String) → Except TransportError Unit

end Monitoring
