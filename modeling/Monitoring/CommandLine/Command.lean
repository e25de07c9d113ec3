import Monitoring.CommandLine.Arguments
import Monitoring.Configuration
import Monitoring.Yaml.Printer

namespace Monitoring.CommandLine

inductive OutputFormat
  | json
  | yaml
  deriving DecidableEq, Repr

namespace OutputFormat

def print (format : OutputFormat) (j : Json) : String :=
  match format with
  | json => j.pretty ++ "\n"
  | yaml => Yaml.render j

end OutputFormat

structure Inputs where
  workDirectory : Bool
  files : List String
  directories : List String
  deriving DecidableEq, Repr

structure PlanOptions where
  inputs : Inputs
  configurationFile : Option String
  override : ConfigurationLayer
  format : OutputFormat
  deriving DecidableEq, Repr

inductive Command
  | normalize (expression : String)
  | toSpecification (expression : String) (format : OutputFormat)
  | ofSpecification
  | plan (options : PlanOptions)
  | schema (resourceType : Option String) (format : OutputFormat)
  deriving DecidableEq, Repr

structure Invocation where
  directories : List String
  command : Command
  deriving DecidableEq, Repr

namespace Invocation

def directoryParameter : Parameter := ⟨"directory", some 'C', true⟩

def formatParameter : Parameter := ⟨"output-format", some 'F', true⟩

def planParameters : List Parameter :=
  [⟨"input-workdir", some 'w', false⟩, ⟨"input-file", some 'f', true⟩,
   ⟨"input-dir", some 'd', true⟩, ⟨"config", none, true⟩, ⟨"name-prefix", none, true⟩,
   ⟨"name-suffix", none, true⟩, formatParameter]

def readFormat (a : Arguments) : Except UsageError OutputFormat := do
  match ← a.value? formatParameter.name with
  | none => return .yaml
  | some "json" => return .json
  | some "yaml" => return .yaml
  | some text => .error (.unknownFormat text)

def readPlanOptions (a : Arguments) : Except UsageError PlanOptions := do
  let inputs : Inputs :=
    ⟨← a.flag "input-workdir", ← a.paths "input-file", ← a.paths "input-dir"⟩
  let file ← a.path? "config"
  let override : ConfigurationLayer := ⟨← a.value? "name-prefix", ← a.value? "name-suffix"⟩
  return ⟨inputs, file, override, ← readFormat a⟩

def within (outer : List String) (i : Invocation) : Invocation :=
  if i.directories.isEmpty then { i with directories := outer } else i

def readLeaf (known : List Parameter) (read : Arguments → Except UsageError Command)
    (arguments : List String) : Except UsageError Invocation := do
  let a ← readArguments (directoryParameter :: known) false arguments
  return ⟨← a.paths directoryParameter.name, ← read a⟩

def readBranch (read : String → List String → Except UsageError Invocation)
    (arguments : List String) : Except UsageError Invocation := do
  let a ← readArguments [directoryParameter] true arguments
  let outer ← a.paths directoryParameter.name
  match a.words with
  | [] => .error .missingCommand
  | word :: rest => return (← read word rest).within outer

def readExpressionCommand (word : String) : List String → Except UsageError Invocation :=
  match word with
  | "normalize" => readLeaf [] fun a => return .normalize (← a.word "expression")
  | "to-api" => readLeaf [formatParameter] fun a => do
    let format ← readFormat a
    return .toSpecification (← a.word "expression") format
  | "from-api" => readLeaf [] fun a => do
    a.noWords
    return .ofSpecification
  | _ => fun _ => .error (.unknownCommand word)

def readCommand (word : String) : List String → Except UsageError Invocation :=
  match word with
  | "expr" | "expression" => readBranch readExpressionCommand
  | "plan" => readLeaf planParameters fun a => do
    a.noWords
    return .plan (← readPlanOptions a)
  | "schema" => readLeaf [formatParameter] fun a => do
    let format ← readFormat a
    return .schema (← a.word?) format
  | _ => fun _ => .error (.unknownCommand word)

def ofArguments (arguments : List String) : Except UsageError Invocation :=
  readBranch readCommand arguments

end Invocation

end Monitoring.CommandLine
