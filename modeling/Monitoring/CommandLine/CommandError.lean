import Monitoring.Plan

namespace Monitoring.CommandLine

inductive LoadError
  | noFiles (directory : String)
  | unreadable (reason : String)
  | malformed
  deriving DecidableEq, Repr

inductive CommandError
  | unresolvedDirectory (path reason : String)
  | notADirectory (path : String)
  | unreadableInput (reason : String)
  | parse (e : ParseError)
  | mapping (e : MappingError)
  | validation (e : ValidationError)
  | malformedSpecification
  | malformedDocument
  | load (e : LoadError)
  | configuration (e : ConfigurationError)
  | plan (e : PlanError)
  | unknownResourceType (name : String)
  deriving DecidableEq, Repr

namespace LoadError

def report : LoadError → List String
  | noFiles directory => [s!"No .tf files found in directory {directory}"]
  | unreadable reason => ["IO error", reason]
  | malformed => ["Unable to parse terraform file"]

end LoadError

end Monitoring.CommandLine

namespace Monitoring

namespace StateError

def report (e : StateError) : List String :=
  match e with
  | unsupportedValue _ reason => [e.message, reason.message]
  | _ => [e.message]

end StateError

namespace ResourceError

def report : ResourceError → List String
  | state e => e.report
  | e => [e.message]

end ResourceError

namespace ConfigurationError

def report (e : ConfigurationError) : List String :=
  match e with
  | unreadable reason => [e.message, reason]
  | _ => [e.message]

end ConfigurationError

namespace PlanError

def report (e : PlanError) : List String :=
  match e with
  | issues is => e.message :: is.map Issue.message
  | configuration cause => e.message :: cause.report
  | resource _ cause => e.message :: cause.report

end PlanError

namespace CommandLine.CommandError

def report : CommandError → List String
  | unresolvedDirectory path reason =>
    [s!"Failed to resolve path for -C/--directory {path}", reason]
  | notADirectory path =>
    [s!"Failed to set work directory to {path}", "Not a directory (os error 20)"]
  | unreadableInput reason => [reason]
  | parse e => [e.message]
  | mapping e => [e.message]
  | validation e => [e.message]
  | malformedSpecification => ["the input is not a match specification"]
  | malformedDocument => ["the input is not a terraform document"]
  | load e => e.report
  | configuration e => e.report
  | plan e => e.report
  | unknownResourceType name => [s!"Unknown resource type {name}"]

end CommandLine.CommandError

end Monitoring
