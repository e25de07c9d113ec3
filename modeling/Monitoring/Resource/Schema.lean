import Monitoring.Json.Record
import Monitoring.State.ResourceState

namespace Monitoring

inductive Presence
  | required
  | optional
  | computed
  deriving DecidableEq, Repr

namespace Presence

def name : Presence → String
  | required => "required"
  | optional => "optional"
  | computed => "computed"

end Presence

structure Field where
  name : String
  type : FieldType
  presence : Presence
  default : Option String
  description : String
  deriving DecidableEq, Repr

abbrev Schema := List Field

namespace Field

def required (name : String) (type : FieldType) (description : String) : Field :=
  ⟨name, type, .required, none, description⟩

def optional (name : String) (type : FieldType) (description : String) : Field :=
  ⟨name, type, .optional, none, description⟩

def withDefault (name default description : String) : Field :=
  ⟨name, .string, .optional, some default, description⟩

def computed (name description : String) : Field := ⟨name, .string, .computed, none, description⟩

def accepts : FieldType → AttributeValue → Bool
  | .string, .string _ => true
  | .stringList, .list items => items.all fun item => item.string?.isSome
  | .stringSet, .list items => items.all fun item => item.string?.isSome
  | _, _ => false

def checkType (f : Field) (value : AttributeValue) : Except StateError Unit :=
  if accepts f.type value then .ok () else .error (.typeMismatch f.name f.type value.type)

def toJson (f : Field) : Json :=
  .object ([("name", .string f.name), ("type", .string f.type.name),
    ("presence", .string f.presence.name)] ++ Json.optionalField "default" f.default ++
    [("description", .string f.description)])

end Field

namespace Schema

def toJson (schema : Schema) : Json := .array (schema.map Field.toJson)

def checkName (schema : Schema) (name : String) : Except StateError Unit :=
  match schema.find? fun f => f.name = name with
  | none => .error (.unknownAttribute name)
  | some f => if f.presence = .computed then .error (.computedAttribute name) else .ok ()

/-- Checks the fields in order and sets the defaults of those that are absent. The state keeps the
defaults set before a field fails. -/
def conformFields (s : ResourceState) : Schema → ResourceState × Except StateError Unit
  | [] => (s, .ok ())
  | f :: rest =>
    match s.get? f.name with
    | some value =>
      match f.checkType value with
      | .error e => (s, .error e)
      | .ok () => conformFields s rest
    | none =>
      if f.presence = .required then (s, .error (.missingAttribute f.name))
      else
        match f.default with
        | some default => conformFields (s.set f.name (.string default)) rest
        | none => conformFields s rest

def conform (schema : Schema) (s : ResourceState) : ResourceState × Except StateError Unit :=
  match s.attributes.names.forM schema.checkName with
  | .error e => (s, .error e)
  | .ok () => conformFields s schema

end Schema

end Monitoring
