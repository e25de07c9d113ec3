import Monitoring.State.Attributes
import Monitoring.State.StateError

namespace Monitoring

structure ResourceState where
  id : Option String
  attributes : Attributes
  prior : Attributes

namespace ResourceState

def empty : ResourceState := ⟨none, .empty, .empty⟩

def get? (s : ResourceState) (name : String) : Option AttributeValue := s.attributes.get? name

def set (s : ResourceState) (name : String) (value : AttributeValue) : ResourceState :=
  { s with attributes := s.attributes.insert name value }

def remove (s : ResourceState) (name : String) : ResourceState :=
  { s with attributes := s.attributes.erase name }

def setOptional (s : ResourceState) (name : String) : Option AttributeValue → ResourceState
  | some value => s.set name value
  | none => s.remove name

def setId (s : ResourceState) (id : String) : ResourceState := { s with id := some id }

def clearId (s : ResourceState) : ResourceState := { s with id := none }

def commit (s : ResourceState) : ResourceState := { s with prior := s.attributes }

def hasChange (s : ResourceState) (name : String) : Bool :=
  match s.attributes.get? name, s.prior.get? name with
  | none, none => false
  | some a, some b => !a.same b
  | _, _ => true

def string? (s : ResourceState) (name : String) : Except StateError (Option String) :=
  match s.get? name with
  | none => .ok none
  | some (.string value) => .ok (some value)
  | some other => .error (.typeMismatch name .string other.type)

def requiredString (s : ResourceState) (name : String) : Except StateError String := do
  match ← s.string? name with
  | some value => return value
  | none => .error (.missingAttribute name)

def stringItems (name : String) : List AttributeValue → Except StateError (List String)
  | [] => .ok []
  | .string value :: rest => return value :: (← stringItems name rest)
  | other :: _ => .error (.typeMismatch name .stringList other.type)

def stringList (s : ResourceState) (name : String) : Except StateError (List String) :=
  match s.get? name with
  | none => .ok []
  | some (.list items) => stringItems name items
  | some other => .error (.typeMismatch name .stringList other.type)

def firstOccurrences (seen : List String) : List String → List String
  | [] => []
  | s :: rest =>
    if s ∈ seen then firstOccurrences seen rest else s :: firstOccurrences (s :: seen) rest

def stringSet (s : ResourceState) (name : String) : Except StateError (List String) :=
  (s.stringList name).map (firstOccurrences [])

def toJson (s : ResourceState) : Json :=
  let id := match s.id with
    | some id => .string id
    | none => .null
  .object (("id", id) :: s.attributes.entries.map fun (name, value) => (name, value.toJson))

end ResourceState

end Monitoring
