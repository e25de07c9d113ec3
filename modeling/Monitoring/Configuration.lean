import Monitoring.Document.Basic
import Monitoring.State.NameFormat
import Monitoring.Text.Character
import Monitoring.Yaml.Reader

namespace Monitoring

structure Configuration where
  namePrefix : String
  nameSuffix : String
  deriving DecidableEq, Repr

structure ConfigurationLayer where
  namePrefix : Option String
  nameSuffix : Option String
  deriving DecidableEq, Repr

inductive ConfigurationError
  | unreadable (reason : String)
  | invalid
  | notAString (key : String)
  deriving DecidableEq, Repr

namespace ConfigurationError

def message : ConfigurationError → String
  | unreadable _ => "Unable to read config file"
  | invalid => "Invalid config file"
  | notAString key => s!"provider attribute {key} must be a string literal"

end ConfigurationError

namespace Configuration

def base : Configuration := ⟨"", " (TF managed)"⟩

def apply (c : Configuration) (layer : ConfigurationLayer) : Configuration :=
  ⟨layer.namePrefix.getD c.namePrefix, layer.nameSuffix.getD c.nameSuffix⟩

def nameFormat (c : Configuration) : NameFormat := ⟨c.namePrefix, c.nameSuffix⟩

def toJson (c : Configuration) : Json :=
  .object [("default_name_prefix", .string c.namePrefix),
    ("default_name_suffix", .string c.nameSuffix)]

end Configuration

namespace ConfigurationLayer

def unset : ConfigurationLayer := ⟨none, none⟩

def prefixKey : String := "default_name_prefix"

def suffixKey : String := "default_name_suffix"

def ofYaml (text : String) : Except ConfigurationError ConfigurationLayer :=
  if Text.isBlank text then .ok unset
  else
    match Yaml.readMapping text with
    | none => .error .invalid
    | some entries =>
      let keys := entries.map Prod.fst
      if decide keys.Nodup && keys.all fun k => k = prefixKey || k = suffixKey then
        .ok ⟨(entries.lookup prefixKey).join, (entries.lookup suffixKey).join⟩
      else .error .invalid

def addAttributes (layer : ConfigurationLayer) :
    List (String × Term) → Except ConfigurationError ConfigurationLayer
  | [] => .ok layer
  | (name, t) :: rest =>
    if name = prefixKey then
      match t with
      | .text s => addAttributes { layer with namePrefix := some s } rest
      | _ => .error (.notAString name)
    else if name = suffixKey then
      match t with
      | .text s => addAttributes { layer with nameSuffix := some s } rest
      | _ => .error (.notAString name)
    else addAttributes layer rest

def ofProvider (b : Body) : Except ConfigurationError ConfigurationLayer :=
  addAttributes unset b.attributes

end ConfigurationLayer

end Monitoring
