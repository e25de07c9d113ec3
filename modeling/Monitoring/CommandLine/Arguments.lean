namespace Monitoring.CommandLine

structure Parameter where
  name : String
  letter : Option Char
  takesValue : Bool
  deriving DecidableEq, Repr

inductive UsageError
  | unknownOption (text : String)
  | missingValue (option : String)
  | superfluousValue (option : String)
  | repeatedOption (option : String)
  | emptyPath (option : String)
  | unknownFormat (text : String)
  | missingCommand
  | unknownCommand (word : String)
  | missingArgument (argument : String)
  | superfluousArgument (word : String)
  deriving DecidableEq, Repr

namespace UsageError

def message : UsageError → String
  | unknownOption text => s!"unknown option {text}"
  | missingValue option => s!"option --{option} needs a value"
  | superfluousValue option => s!"option --{option} takes no value"
  | repeatedOption option => s!"option --{option} is given more than once"
  | emptyPath option => s!"option --{option} needs a path"
  | unknownFormat text => s!"{text} is not an output format"
  | missingCommand => "a command is missing"
  | unknownCommand word => s!"unknown command {word}"
  | missingArgument argument => s!"argument {argument} is missing"
  | superfluousArgument word => s!"unexpected argument {word}"

end UsageError

structure GivenOption where
  name : String
  value : Option String
  deriving DecidableEq, Repr

structure Arguments where
  options : List GivenOption
  words : List String
  deriving DecidableEq, Repr

namespace Arguments

def addOptions (options : List GivenOption) (a : Arguments) : Arguments :=
  { a with options := options ++ a.options }

def addWord (word : String) (a : Arguments) : Arguments := { a with words := word :: a.words }

end Arguments

inductive Argument
  | separator
  | word
  | options (given : List GivenOption) (waiting : Option Parameter)
  deriving DecidableEq, Repr

def readLong (known : List Parameter) (text : List Char) : Except UsageError Argument :=
  let name := String.ofList (text.takeWhile (· ≠ '='))
  match known.find? fun p => p.name = name, text.dropWhile (· ≠ '=') with
  | none, _ => .error (.unknownOption s!"--{name}")
  | some p, [] =>
    .ok (if p.takesValue then .options [] (some p) else .options [⟨name, none⟩] none)
  | some p, _ :: value =>
    if p.takesValue then .ok (.options [⟨name, some (String.ofList value)⟩] none)
    else .error (.superfluousValue name)

def readLetters (known : List Parameter) (given : List GivenOption) :
    List Char → Except UsageError Argument
  | [] => .ok (.options given none)
  | c :: rest =>
    match known.find? fun p => p.letter = some c with
    | none => .error (.unknownOption (String.ofList ['-', c]))
    | some p =>
      if p.takesValue then
        match rest with
        | [] => .ok (.options given (some p))
        | '=' :: value => .ok (.options (given ++ [⟨p.name, some (String.ofList value)⟩]) none)
        | value => .ok (.options (given ++ [⟨p.name, some (String.ofList value)⟩]) none)
      else readLetters known (given ++ [⟨p.name, none⟩]) rest

def readArgument (known : List Parameter) (text : String) : Except UsageError Argument :=
  match text.toList with
  | ['-', '-'] => .ok .separator
  | '-' :: '-' :: rest => readLong known rest
  | '-' :: c :: rest => readLetters known [] (c :: rest)
  | _ => .ok .word

def isValue (text : String) : Bool :=
  match text.toList with
  | '-' :: _ :: _ => false
  | _ => true

def readArguments (known : List Parameter) (expectsCommand : Bool) :
    List String → Except UsageError Arguments
  | [] => .ok ⟨[], []⟩
  | text :: rest =>
    match readArgument known text with
    | .error e => .error e
    | .ok .separator => if expectsCommand then .error .missingCommand else .ok ⟨[], rest⟩
    | .ok .word =>
      if expectsCommand then .ok ⟨[], text :: rest⟩
      else (readArguments known expectsCommand rest).map (·.addWord text)
    | .ok (.options given none) =>
      (readArguments known expectsCommand rest).map (·.addOptions given)
    | .ok (.options given (some p)) =>
      match rest with
      | [] => .error (.missingValue p.name)
      | value :: rest =>
        if isValue value then
          (readArguments known expectsCommand rest).map
            (·.addOptions (given ++ [⟨p.name, some value⟩]))
        else .error (.missingValue p.name)

namespace Arguments

def values (a : Arguments) (name : String) : List String :=
  (a.options.filter fun o => o.name = name).filterMap GivenOption.value

def flag (a : Arguments) (name : String) : Except UsageError Bool :=
  match a.options.filter fun o => o.name = name with
  | [] => .ok false
  | [_] => .ok true
  | _ => .error (.repeatedOption name)

def value? (a : Arguments) (name : String) : Except UsageError (Option String) :=
  match a.values name with
  | [] => .ok none
  | [value] => .ok (some value)
  | _ => .error (.repeatedOption name)

def paths (a : Arguments) (name : String) : Except UsageError (List String) :=
  if (a.values name).contains "" then .error (.emptyPath name) else .ok (a.values name)

def path? (a : Arguments) (name : String) : Except UsageError (Option String) := do
  match ← a.value? name with
  | some "" => .error (.emptyPath name)
  | path => return path

def noWords (a : Arguments) : Except UsageError Unit :=
  match a.words with
  | [] => .ok ()
  | word :: _ => .error (.superfluousArgument word)

def word? (a : Arguments) : Except UsageError (Option String) :=
  match a.words with
  | [] => .ok none
  | [word] => .ok (some word)
  | _ :: word :: _ => .error (.superfluousArgument word)

def word (a : Arguments) (argument : String) : Except UsageError String := do
  match ← a.word? with
  | some word => return word
  | none => .error (.missingArgument argument)

end Arguments

end Monitoring.CommandLine
