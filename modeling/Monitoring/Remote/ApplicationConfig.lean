import Monitoring.MatchSpecification.Basic
import Monitoring.Remote.Basic

namespace Monitoring

structure ApplicationConfig where
  id : String
  label : String
  matchSpecification : MatchSpecification
  scope : String
  boundaryScope : String
  deriving DecidableEq, Repr

namespace ApplicationConfig

def maxLabelLength : Nat := 256

def supportedScopes : List String :=
  ["INCLUDE_NO_DOWNSTREAM", "INCLUDE_IMMEDIATE_DOWNSTREAM_DATABASE_AND_MESSAGING",
   "INCLUDE_ALL_DOWNSTREAM"]

def supportedBoundaryScopes : List String := ["ALL", "INBOUND", "DEFAULT"]

open Validation in
def validate (c : ApplicationConfig) : Check := do
  nonBlank "ID" c.id
  nonBlank "Label" c.label
  maxLength "Label" c.label maxLabelLength
  c.matchSpecification.validate
  supported "Scope" c.scope supportedScopes
  supported "BoundaryScope" c.boundaryScope supportedBoundaryScopes

def toJson (c : ApplicationConfig) : Json :=
  .object [("id", .string c.id), ("label", .string c.label),
    ("matchSpecification", c.matchSpecification.toJson), ("scope", .string c.scope),
    ("boundaryScope", .string c.boundaryScope)]

open Json in
def ofJson? (j : Json) : Option ApplicationConfig := do
  let fields ← j.named? ["id", "label", "matchSpecification", "scope", "boundaryScope"]
  return {
    id := ← required string? "id" fields
    label := ← required string? "label" fields
    matchSpecification := ← required MatchSpecification.ofJson? "matchSpecification" fields
    scope := ← required string? "scope" fields
    boundaryScope := ← required string? "boundaryScope" fields }

instance : Storable ApplicationConfig where
  path := "/application-monitoring/settings/application"
  id := id
  validate := validate
  toJson := toJson
  ofJson? := ofJson?

end ApplicationConfig

end Monitoring
