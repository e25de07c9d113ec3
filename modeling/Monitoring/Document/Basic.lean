import Monitoring.Document.Number

namespace Monitoring

inductive UnaryOperator
  | negative
  | not
  deriving DecidableEq, Repr

inductive BinaryOperator
  | multiply
  | divide
  | remainder
  | add
  | subtract
  | greater
  | greaterOrEqual
  | less
  | lessOrEqual
  | equal
  | notEqual
  | and
  | or
  deriving DecidableEq, Repr

namespace BinaryOperator

def tier : BinaryOperator → Nat
  | multiply | divide | remainder => 6
  | add | subtract => 5
  | greater | greaterOrEqual | less | lessOrEqual => 4
  | equal | notEqual => 3
  | and => 2
  | or => 1

end BinaryOperator

mutual

inductive Term
  | null
  | boolean (value : Bool)
  | number (value : Number)
  | text (value : String)
  | template (parts : List TemplatePart)
  | list (items : List Term)
  | object (fields : List ObjectField)
  | parenthesis (inner : Term)
  | variable (name : String)
  | call (name : String) (arguments : List Term)
  | access (base : Term) (path : List Access)
  | unary (operator : UnaryOperator) (operand : Term)
  | binary (operator : BinaryOperator) (left right : Term)
  | conditional (condition whenTrue whenFalse : Term)
  | listFor (key : Option String) (value : String) (collection result condition : Term)
  | objectFor (key : Option String) (value : String) (collection resultKey result : Term)
      (grouped : Bool) (condition : Term)

inductive Access
  | field (name : String)
  | element (index : Term)
  | eachField (names : List String)
  | each

inductive ObjectField
  | named (name : String) (value : Term)
  | computed (key value : Term)

inductive TemplatePart
  | literal (text : String)
  | interpolation (term : Term)
  | choice (condition : Term) (whenTrue whenFalse : List TemplatePart)
  | loop (key : Option String) (value : String) (collection : Term) (body : List TemplatePart)

end

namespace Term

def sameLiteral : Term → Term → Bool
  | null, null => true
  | boolean a, boolean b => a = b
  | number a, number b => a.equals b
  | text a, text b => a = b
  | _, _ => false

/-- Joins a left operand to all that stands to the right of its operator. Tighter operators join
first, equal ones from the right. -/
def join (op : BinaryOperator) (left : Term) : Term → Term
  | binary next first rest =>
    if next.tier < op.tier then binary next (join op left first) rest
    else binary op left (binary next first rest)
  | right => binary op left right

def endsInParenthesis : Term → Bool
  | parenthesis _ => true
  | unary _ (parenthesis _) => true
  | _ => false

end Term

namespace Access

def gather (names : List String) : List Access → List Access
  | field name :: rest => gather (names ++ [name]) rest
  | rest => eachField names :: rest

end Access

namespace ObjectField

def sameKey : ObjectField → ObjectField → Bool
  | named a _, named b _ => a = b
  | computed a _, computed b _ => a.sameLiteral b
  | _, _ => false

def put (f : ObjectField) : List ObjectField → List ObjectField
  | [] => [f]
  | g :: rest => if f.sameKey g then f :: rest else g :: put f rest

end ObjectField

inductive Structure
  | attribute (name : String) (value : Term)
  | block (type : String) (labels : List String) (body : List Structure)

abbrev Body := List Structure

namespace Structure

def attribute? : Structure → Option (String × Term)
  | .attribute name value => some (name, value)
  | .block .. => none

end Structure

def Body.attributes (b : Body) : List (String × Term) := b.filterMap Structure.attribute?

end Monitoring
