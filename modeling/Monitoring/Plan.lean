import Monitoring.Configuration
import Monitoring.Document.Evaluation
import Monitoring.Resource.Kind

/-!
The plan of the resources that documents declare: for each the request that would store it and
the state after that, without any request being made. All issues of structure are reported
together; of the resources the first that fails ends the plan.
-/

namespace Monitoring

structure Source where
  file : Option String
  body : Body

namespace Source

def name (s : Source) : String := s.file.getD "<stdin>"

end Source

inductive Issue
  | rootAttribute (file key : String)
  | resourceLabels (file : String) (count : Nat)
  | unknownResourceType (file type : String)
  | duplicateAddress (file address : String)
  | duplicateProvider (count : Nat)
  deriving DecidableEq, Repr

namespace Issue

def message : Issue → String
  | rootAttribute file key => s!"{file}: root attribute {key} is not allowed"
  | resourceLabels file count =>
    s!"{file}: resource block needs a type and a name label, found {count} labels"
  | unknownResourceType file type => s!"{file}: unsupported resource type {type}"
  | duplicateAddress file address => s!"{file}: resource {address} is declared more than once"
  | duplicateProvider count => s!"provider \"instana\" is configured {count} times"

end Issue

inductive PlanError
  | issues (issues : List Issue)
  | configuration (cause : ConfigurationError)
  | resource (address : String) (cause : ResourceError)
  deriving DecidableEq, Repr

namespace PlanError

def message : PlanError → String
  | issues _ => "Invalid terraform documents"
  | configuration _ => "Invalid provider configuration"
  | resource address _ => s!"Unable to plan {address}"

end PlanError

structure Declaration where
  address : String
  kind : ResourceKind
  body : Body

structure PlannedResource where
  address : String
  path : String
  payload : Json
  state : ResourceState

structure Plan where
  configuration : Configuration
  resources : List PlannedResource

namespace Plan

structure Survey where
  declarations : List Declaration
  providers : List Body
  issues : List Issue

namespace Survey

def empty : Survey := ⟨[], [], []⟩

def report (s : Survey) (i : Issue) : Survey := { s with issues := s.issues ++ [i] }

def addResource (s : Survey) (file : String) (labels : List String) (body : Body) : Survey :=
  match labels with
  | [type, name] =>
    match ResourceKind.ofTypeName? type with
    | none =>
      if "instana_".toList.isPrefixOf type.toList then s.report (.unknownResourceType file type)
      else s
    | some kind =>
      let address := type ++ "." ++ name
      if s.declarations.any fun d => d.address = address then
        s.report (.duplicateAddress file address)
      else { s with declarations := s.declarations ++ [⟨address, kind, body⟩] }
  | _ => s.report (.resourceLabels file labels.length)

def addStructure (s : Survey) (file : String) : Structure → Survey
  | .attribute .. => s
  | .block type labels body =>
    if type = "resource" then s.addResource file labels body
    else if type = "provider" && labels.head? = some "instana" then
      { s with providers := s.providers ++ [body] }
    else s

def addSource (s : Survey) (source : Source) : Survey :=
  source.body.foldl (fun s b => s.addStructure source.name b) s

end Survey

def rootAttributes (source : Source) : List Issue :=
  source.body.attributes.map fun (key, _) => .rootAttribute source.name key

def survey (sources : List Source) : Survey :=
  let s := sources.foldl Survey.addSource { Survey.empty with
    issues := sources.flatMap rootAttributes }
  if 1 < s.providers.length then s.report (.duplicateProvider s.providers.length) else s

def planState (format : NameFormat) (address : String) (k : ResourceKind) (s : ResourceState) :
    Except ResourceError PlannedResource := do
  let o ← k.toObject s format
  o.validate.mapError .validation
  let updated ← k.updateState s o
  return ⟨address, o.path, o.payload, updated.commit⟩

def planResource (format : NameFormat) (freshId : String) (d : Declaration) :
    Except ResourceError PlannedResource := do
  let evaluated ← d.body.toState.mapError .state
  let pinned ← (evaluated.string? "id").mapError .state
  let (conformed, checked) := d.kind.schema.conform (evaluated.remove "id")
  checked.mapError .state
  planState format d.address d.kind (conformed.setId (pinned.getD freshId))

def planResources (format : NameFormat) (freshId : Nat → String) (index : Nat) :
    List Declaration → Except PlanError (List PlannedResource)
  | [] => .ok []
  | d :: rest => do
    let r ← (planResource format (freshId index) d).mapError (.resource d.address)
    return r :: (← planResources format freshId (index + 1) rest)

def make (sources : List Source) (base : Configuration) (override : ConfigurationLayer)
    (freshId : Nat → String) : Except PlanError Plan := do
  let s := survey sources
  if !s.issues.isEmpty then .error (.issues s.issues)
  let configured ← match s.providers with
    | [] => pure base
    | provider :: _ =>
      (ConfigurationLayer.ofProvider provider).mapError PlanError.configuration |>.map base.apply
  let configuration := configured.apply override
  let resources ← planResources configuration.nameFormat freshId 0 s.declarations
  return ⟨configuration, resources⟩

end Plan

namespace PlannedResource

def toJson (r : PlannedResource) : Json :=
  .object [("address", .string r.address), ("resource_path", .string r.path),
    ("payload", r.payload), ("state", r.state.toJson)]

end PlannedResource

namespace Plan

def toJson (p : Plan) : Json :=
  .object [("config", p.configuration.toJson),
    ("resources", .array (p.resources.map PlannedResource.toJson))]

end Plan

end Monitoring
