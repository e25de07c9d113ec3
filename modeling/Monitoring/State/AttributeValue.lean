import Monitoring.Decimal.Shortest
import Monitoring.Json.Basic

namespace Monitoring

inductive AttributeValue
  | boolean (value : Bool)
  | integer (value : Int64)
  | decimal (value : Float)
  | string (value : String)
  | list (items : List AttributeValue)
  deriving Inhabited

inductive AttributeType
  | bool
  | number
  | string
  | list
  deriving DecidableEq, Repr

namespace AttributeType

def name : AttributeType → String
  | bool => "bool"
  | number => "number"
  | string => "string"
  | list => "list"

end AttributeType

namespace AttributeValue

def type : AttributeValue → AttributeType
  | boolean _ => .bool
  | integer _ | decimal _ => .number
  | string _ => .string
  | list _ => .list

def string? : AttributeValue → Option String
  | string s => some s
  | _ => none

def strings (items : List String) : AttributeValue := list (items.map string)

mutual

def same : AttributeValue → AttributeValue → Bool
  | boolean a, boolean b => a = b
  | integer a, integer b => a = b
  | decimal a, decimal b => a == b
  | string a, string b => a = b
  | list as, list bs => sameItems as bs
  | _, _ => false

def sameItems : List AttributeValue → List AttributeValue → Bool
  | [], [] => true
  | a :: as, b :: bs => a.same b && sameItems as bs
  | _, _ => false

end

def decimalLayout : Decimal.Layout := ⟨16, 4, true⟩

mutual

def toJson : AttributeValue → Json
  | boolean b => .boolean b
  | integer n => .integer n.toInt
  | decimal x => if x.isFinite then .decimal (decimalLayout.format x) else .null
  | string s => .string s
  | list items => .array (itemsToJson items)

def itemsToJson : List AttributeValue → List Json
  | [] => []
  | item :: rest => item.toJson :: itemsToJson rest

end

end AttributeValue

end Monitoring
