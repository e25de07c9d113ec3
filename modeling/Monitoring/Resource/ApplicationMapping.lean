import Monitoring.Remote.ApplicationConfig
import Monitoring.Resource.Error
import Monitoring.Resource.Schema
import Monitoring.State.NameFormat

namespace Monitoring.ApplicationConfig

def defaultScope : String := "INCLUDE_NO_DOWNSTREAM"

def defaultBoundaryScope : String := "DEFAULT"

def schema : Schema :=
  [.required "label" .string "label of the application perspective",
   .computed "full_label" "label including the configured prefix and suffix",
   .withDefault "scope" defaultScope "downstream scope",
   .withDefault "boundary_scope" defaultBoundaryScope "boundary scope",
   .required "match_specification" .string
     "match expression selecting the entities of the application"]

def specificationOf (text : String) : Except ResourceError MatchSpecification := do
  let e ← (Expression.parse text).mapError .parse
  e.toSpecification.mapError .mapping

def ofState (s : ResourceState) (format : NameFormat) :
    Except ResourceError ApplicationConfig := do
  let label ← (format.fullName s "label" "full_label").mapError .state
  let text ← (s.requiredString "match_specification").mapError .state
  let specification ← specificationOf text
  let scope ← (s.string? "scope").mapError .state
  let boundaryScope ← (s.string? "boundary_scope").mapError .state
  return ⟨s.id.getD "", label, specification, scope.getD defaultScope,
    boundaryScope.getD defaultBoundaryScope⟩

def store (c : ApplicationConfig) (s : ResourceState) :
    ResourceState × Except ResourceError Unit :=
  match c.matchSpecification.toExpression with
  | .error e => (s, .error (.mapping e))
  | .ok e =>
    let s := (s.setId c.id).set "full_label" (.string c.label)
    let s := (s.set "scope" (.string c.scope)).set "boundary_scope" (.string c.boundaryScope)
    (s.set "match_specification" (.string e.render), .ok ())

end Monitoring.ApplicationConfig
