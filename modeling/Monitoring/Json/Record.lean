import Monitoring.Json.Basic

namespace Monitoring.Json

def string? : Json → Option String
  | string s => some s
  | _ => none

def boolean? : Json → Option Bool
  | boolean b => some b
  | _ => none

def integer? : Json → Option Int
  | integer n => some n
  | _ => none

def strings? : Json → Option (List String)
  | array items => items.mapM string?
  | _ => none

def named? (names : List String) : Json → Option (List (String × Json))
  | object fields =>
    if names.all fun name => (fields.filter fun field => field.1 = name).length ≤ 1 then
      some fields
    else none
  | array items => if items.length ≤ names.length then some (names.zip items) else none
  | _ => none

def required {α : Type} (read : Json → Option α) (name : String)
    (fields : List (String × Json)) : Option α :=
  (fields.lookup name).bind read

def optional {α : Type} (read : Json → Option α) (name : String)
    (fields : List (String × Json)) : Option (Option α) :=
  match fields.lookup name with
  | none => some none
  | some null => some none
  | some j => (read j).map some

def stringsOrEmpty (name : String) (fields : List (String × Json)) : Option (List String) :=
  match fields.lookup name with
  | none => some []
  | some j => j.strings?

def optionalField (name : String) : Option String → List (String × Json)
  | some s => [(name, string s)]
  | none => []

def nonEmptyField (name : String) : List String → List (String × Json)
  | [] => []
  | items => [(name, array (items.map string))]

end Monitoring.Json
