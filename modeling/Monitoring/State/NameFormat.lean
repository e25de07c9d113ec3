import Monitoring.State.ResourceState

namespace Monitoring

structure NameFormat where
  opening : String
  ending : String
  deriving DecidableEq, Repr

namespace NameFormat

def format (f : NameFormat) (name : String) : String := f.opening ++ name ++ f.ending

def dropOpening (opening s : List Char) : List Char :=
  if opening.isPrefixOf s then s.drop opening.length else s

def dropEnding (ending s : List Char) : List Char :=
  if ending.isSuffixOf s then s.take (s.length - ending.length) else s

def undo (f : NameFormat) (stored : String) : String :=
  String.ofList (dropEnding f.ending.toList (dropOpening f.opening.toList stored.toList))

/-- The name to store. It is formatted anew if the given name changed since the last commit or
none was stored yet; otherwise a stored name stays, whatever the format. -/
def fullName (f : NameFormat) (s : ResourceState) (nameField fullNameField : String) :
    Except StateError String := do
  let name ← s.requiredString nameField
  match ← s.string? fullNameField with
  | some stored => return if s.hasChange nameField then f.format name else stored
  | none => return f.format name

end NameFormat

end Monitoring
