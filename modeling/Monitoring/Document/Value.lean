import Monitoring.Document.Number
import Monitoring.Json.Printer
import Monitoring.State.StateError

namespace Monitoring

inductive Value
  | null
  | boolean (value : Bool)
  | number (value : Number)
  | string (value : String)
  | list (items : List Value)
  | object (fields : List (String × Value))

namespace Value

def lineBreak (column : Nat) : List Char := '\n' :: List.replicate column ' '

def describe : Value → String
  | null => "null"
  | boolean _ => "a boolean"
  | number _ => "a number"
  | string _ => "a string"
  | list _ => "a list"
  | object _ => "an object"

mutual

def same : Value → Value → Bool
  | null, null => true
  | boolean a, boolean b => a = b
  | number a, number b => a.equals b
  | string a, string b => a = b
  | list as, list bs => sameItems as bs
  | object as, object bs => as.length = bs.length && sameFields as bs
  | _, _ => false

def sameItems : List Value → List Value → Bool
  | [], [] => true
  | a :: as, b :: bs => a.same b && sameItems as bs
  | _, _ => false

def sameFields : List (String × Value) → List (String × Value) → Bool
  | [], _ => true
  | (name, a) :: rest, bs =>
    (match bs.lookup name with
      | some b => a.same b
      | none => false) && sameFields rest bs

end

mutual

def layOut (column : Nat) : Value → List Char
  | null => "null".toList
  | boolean b => if b then "true".toList else "false".toList
  | number n => n.text.toList
  | string s => Json.quoted s
  | list [] => ['[', ']']
  | list (item :: rest) =>
    '[' :: (lineBreak (column + 2) ++ item.layOut (column + 2) ++ layOutItems (column + 2) rest ++
      lineBreak column ++ [']'])
  | object [] => ['\x7b', '\x7d']
  | object ((name, value) :: rest) =>
    '\x7b' :: (lineBreak (column + 2) ++ Json.quoted name ++ " = ".toList ++
      value.layOut (column + 2) ++ layOutFields (column + 2) rest ++ lineBreak column ++ ['\x7d'])

def layOutItems (column : Nat) : List Value → List Char
  | [] => []
  | item :: rest => ',' :: (lineBreak column ++ item.layOut column ++ layOutItems column rest)

def layOutFields (column : Nat) : List (String × Value) → List Char
  | [] => []
  | (name, value) :: rest =>
    lineBreak column ++ Json.quoted name ++ " = ".toList ++ value.layOut column ++
      layOutFields column rest

end

def text : Value → String
  | string s => s
  | v => String.ofList (v.layOut 0)

mutual

def toAttribute : Value → Except UnsupportedValue AttributeValue
  | null => .error .null
  | boolean b => .ok (.boolean b)
  | number n =>
    match n.int64? with
    | some i => .ok (.integer i)
    | none => .ok (.decimal n.toFloat)
  | string s => .ok (.string s)
  | list items => (itemsToAttributes items).map .list
  | object _ => .error .object

def itemsToAttributes : List Value → Except UnsupportedValue (List AttributeValue)
  | [] => .ok []
  | item :: rest => do
    let first ← item.toAttribute
    return first :: (← itemsToAttributes rest)

end

def putField (name : String) (value : Value) : List (String × Value) → List (String × Value)
  | [] => [(name, value)]
  | (n, v) :: rest => if n = name then (n, value) :: rest else (n, v) :: putField name value rest

end Value

end Monitoring
