import Monitoring.MatchSpecification.Mapping
import Monitoring.Remote.Collection
import Monitoring.State.StateError

namespace Monitoring

inductive ResourceError
  | parse (e : ParseError)
  | mapping (e : MappingError)
  | validation (e : ValidationError)
  | remote (e : RemoteError)
  | state (e : StateError)
  | kindMismatch (resource found : String)
  | missingId (resource : String)
  deriving DecidableEq, Repr

namespace ResourceError

def message : ResourceError → String
  | parse e => e.message
  | mapping e => e.message
  | validation e => e.message
  | remote e => e.message
  | state e => e.message
  | kindMismatch resource found => s!"{resource} cannot be built from a {found} data object"
  | missingId resource => s!"resource state of {resource} has no id"

end ResourceError

end Monitoring
