import Monitoring.CommandLine.Command
import Monitoring.CommandLine.CommandError
import Monitoring.Document.Reader
import Monitoring.Json.Reader
import Monitoring.Uuid

namespace Monitoring.CommandLine

structure Host (m : Type → Type) where
  workDirectory : m String
  input : m (Except String String)
  resolve : String → m (Except String String)
  isDirectory : String → m Bool
  content : String → m (Except String String)
  regularFiles : String → m (Except String (List String))
  randomBytes : Nat → m (List UInt8)

def pathFrom (directory path : String) : String :=
  match path.toList with
  | '/' :: _ => path
  | _ => directory ++ "/" ++ path

abbrev Action (m : Type → Type) (α : Type) := ExceptT CommandError m α

inductive Outcome
  | misused (e : UsageError)
  | failed (e : CommandError)
  | printed (text : String)
  deriving DecidableEq, Repr

namespace Outcome

def exitCode : Outcome → Nat
  | printed _ => 0
  | failed _ => 1
  | misused _ => 2

end Outcome

namespace Host

variable {m : Type → Type} [Monad m]

def attempt {α : Type} (service : m (Except String α)) (error : String → CommandError) :
    Action m α :=
  ExceptT.mk (return (← service).mapError error)

def enter (h : Host m) (start : String) : List String → Action m String
  | [] => return start
  | path :: rest => do
    let directory ← attempt (h.resolve (pathFrom start path)) (.unresolvedDirectory path)
    if ← h.isDirectory directory then h.enter directory rest
    else throw (.notADirectory directory)

def loadFile (h : Host m) (path : String) : Action m Source := do
  let file ← attempt (h.resolve path) fun reason => .load (.unreadable reason)
  let text ← attempt (h.content file) fun reason => .load (.unreadable reason)
  match Document.parse text with
  | some body => return ⟨some file, body⟩
  | none => throw (.load .malformed)

def isDocumentName (name : String) : Bool := ".tf".toList.isSuffixOf name.toList

def loadDirectory (h : Host m) (shown path : String) : Action m (List Source) := do
  let names ← attempt (h.regularFiles path) fun reason => .load (.unreadable reason)
  let documents := (names.filter isDocumentName).mergeSort
  if documents.isEmpty then throw (.load (.noFiles shown))
  documents.mapM fun name => h.loadFile (pathFrom path name)

def load (h : Host m) (directory : String) (i : Inputs) : Action m (List Source) := do
  if !i.workDirectory && i.files.isEmpty && i.directories.isEmpty then
    let text ← attempt h.input .unreadableInput
    match Document.parse text with
    | some body => return [⟨none, body⟩]
    | none => throw .malformedDocument
  else
    let here ← if i.workDirectory then h.loadDirectory directory directory else pure []
    let files ← i.files.mapM fun path => h.loadFile (pathFrom directory path)
    let others ← i.directories.mapM fun path => h.loadDirectory path (pathFrom directory path)
    return here ++ files ++ others.flatten

def configure (h : Host m) (directory : String) : Option String → Action m Configuration
  | none => return .base
  | some path => do
    let text ← attempt (h.content (pathFrom directory path)) fun reason =>
      .configuration (.unreadable reason)
    match ConfigurationLayer.ofYaml text with
    | .ok layer => return Configuration.base.apply layer
    | .error e => throw (.configuration e)

def plan (h : Host m) (directory : String) (o : PlanOptions) : Action m Plan := do
  let sources ← h.load directory o.inputs
  let base ← h.configure directory o.configurationFile
  let count := (Plan.survey sources).declarations.length
  let bytes ← h.randomBytes (Uuid.size * count)
  ExceptT.mk (pure ((Plan.make sources base o.override (Uuid.pick bytes)).mapError .plan))

def readSpecification (h : Host m) : Action m Expression := do
  let text ← attempt h.input .unreadableInput
  match MatchSpecification.parse? text with
  | none => throw .malformedSpecification
  | some s =>
    ExceptT.mk (pure (s.validate.mapError .validation))
    ExceptT.mk (pure (s.toExpression.mapError .mapping))

def execute (h : Host m) (directory : String) : Command → Action m String
  | .normalize text =>
    ExceptT.mk (pure (((Expression.normalize text).mapError .parse).map (· ++ "\n")))
  | .toSpecification text format => do
    let e ← ExceptT.mk (pure ((Expression.parse text).mapError .parse))
    let s ← ExceptT.mk (pure (e.toSpecification.mapError .mapping))
    return format.print s.toJson
  | .ofSpecification => do
    return (← h.readSpecification).render ++ "\n"
  | .plan options => do
    return options.format.print (← h.plan directory options).toJson
  | .schema none format => return format.print ResourceKind.schemasJson
  | .schema (some name) format =>
    match ResourceKind.ofTypeName? name with
    | some kind => return format.print kind.schema.toJson
    | none => throw (.unknownResourceType name)

def invoke (h : Host m) (i : Invocation) : Action m String := do
  let directory ← h.enter (← h.workDirectory) i.directories
  h.execute directory i.command

def run (h : Host m) (arguments : List String) : m Outcome := do
  match Invocation.ofArguments arguments with
  | .error e => return .misused e
  | .ok i =>
    match ← (h.invoke i).run with
    | .ok text => return .printed text
    | .error e => return .failed e

end Host

end Monitoring.CommandLine
