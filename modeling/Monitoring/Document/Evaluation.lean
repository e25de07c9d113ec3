import Monitoring.Document.Basic
import Monitoring.Document.Value
import Monitoring.State.ResourceState

namespace Monitoring

abbrev Scope := List (String × Value)

namespace Value

abbrev Result := Except EvaluationError Value

def unexpected {α : Type} (expected : String) (v : Value) : Except EvaluationError α :=
  .error (.unexpected expected v.describe)

def truth : Value → Except EvaluationError Bool
  | boolean b => .ok b
  | v => unexpected "a boolean" v

def key : Value → Except EvaluationError String
  | string s => .ok s
  | number n => .ok n.text
  | boolean b => .ok (if b then "true" else "false")
  | v => unexpected "a string" v

def elements : Value → Except EvaluationError (List (Value × Value))
  | list items => .ok (items.zipIdx.map fun (v, i) => (number (.whole i), v))
  | object fields => .ok (fields.map fun (name, v) => (string name, v))
  | v => unexpected "a list or an object" v

def spread : Value → List Value
  | list items => items
  | null => []
  | v => [v]

def getField (name : String) : Value → Result
  | object fields =>
    match fields.lookup name with
    | some v => .ok v
    | none => .error .undefinedIndex
  | v => unexpected "an object" v

def getElement (base index : Value) : Result :=
  match base, index with
  | list items, number (.whole n) =>
    if n < 0 then .error .undefinedIndex
    else
      match items[n.toNat]? with
      | some v => .ok v
      | none => .error .undefinedIndex
  | list _, i => unexpected "a whole number" i
  | object fields, string name => getField name (object fields)
  | object _, i => unexpected "a string" i
  | v, _ => unexpected "a list or an object" v

def applyUnary : UnaryOperator → Value → Result
  | .negative, number n => .ok (number n.neg)
  | .negative, v => unexpected "a number" v
  | .not, boolean b => .ok (boolean !b)
  | .not, v => unexpected "a boolean" v

def applyToNumbers (op : BinaryOperator) (a b : Number) : Result :=
  match op with
  | .multiply => .ok (number (a.mul b))
  | .divide => .ok (number (a.div b))
  | .remainder =>
    match a.rem? b with
    | some n => .ok (number n)
    | none => .error .divisionByZero
  | .add => .ok (number (a.add b))
  | .subtract => .ok (number (a.sub b))
  | .greater => .ok (boolean (b.less a))
  | .greaterOrEqual => .ok (boolean (b.atMost a))
  | .less => .ok (boolean (a.less b))
  | .lessOrEqual => .ok (boolean (a.atMost b))
  | .equal => .ok (boolean (a.equals b))
  | .notEqual => .ok (boolean !(a.equals b))
  | .and | .or => unexpected "a boolean" (number a)

def applyBinary (op : BinaryOperator) (a b : Value) : Result :=
  match op, a, b with
  | .equal, a, b => .ok (boolean (a.same b))
  | .notEqual, a, b => .ok (boolean !(a.same b))
  | .and, boolean p, boolean q => .ok (boolean (p && q))
  | .or, boolean p, boolean q => .ok (boolean (p || q))
  | op, number m, number n => applyToNumbers op m n
  | .and, boolean _, v | .and, v, _ | .or, boolean _, v | .or, v, _ => unexpected "a boolean" v
  | _, number _, v | _, v, _ => unexpected "a number" v

end Value

def Scope.bind (scope : Scope) (key : Option String) (value : String) (k v : Value) : Scope :=
  match key with
  | some key => (value, v) :: (key, k) :: scope
  | none => (value, v) :: scope

def addResult (grouped : Bool) (name : String) (v : Value) (fields : List (String × Value)) :
    Except EvaluationError (List (String × Value)) :=
  match fields.lookup name, grouped with
  | none, false => .ok (Value.putField name v fields)
  | none, true => .ok (Value.putField name (.list [v]) fields)
  | some _, false => .error (.duplicateKey name)
  | some (.list vs), true => .ok (Value.putField name (.list (vs ++ [v])) fields)
  | some _, true => .error (.duplicateKey name)

mutual

def Term.evaluate : Term → Scope → Value.Result
  | .null, _ => .ok .null
  | .boolean b, _ => .ok (.boolean b)
  | .number n, _ => .ok (.number n)
  | .text s, _ => .ok (.string s)
  | .template [.interpolation t], scope => t.evaluate scope
  | .template parts, scope => (renderParts parts scope).map .string
  | .list items, scope => (evaluateAll items scope).map .list
  | .object fields, scope => (evaluateFields fields scope []).map .object
  | .parenthesis t, scope => t.evaluate scope
  | .variable name, scope =>
    match scope.lookup name with
    | some v => .ok v
    | none => .error (.undefinedVariable name)
  | .call name _, _ => .error (.undefinedFunction name)
  | .access base path, scope => do follow path scope (← base.evaluate scope)
  | .unary op t, scope => do Value.applyUnary op (← t.evaluate scope)
  | .binary op l r, scope => do
    let a ← l.evaluate scope
    let b ← r.evaluate scope
    Value.applyBinary op a b
  | .conditional c t f, scope => do
    if ← (← c.evaluate scope).truth then t.evaluate scope else f.evaluate scope
  | .listFor key value collection result condition, scope => do
    let elements ← (← collection.evaluate scope).elements
    let kept ← elements.filterMapM fun (k, v) => do
      let inner := scope.bind key value k v
      if ← (← condition.evaluate inner).truth then return some (← result.evaluate inner)
      else return none
    return .list kept
  | .objectFor key value collection resultKey result grouped condition, scope => do
    let elements ← (← collection.evaluate scope).elements
    let fields ← elements.foldlM (fun fields (k, v) => do
      let inner := scope.bind key value k v
      if ← (← condition.evaluate inner).truth then
        let name ← (← resultKey.evaluate inner).key
        addResult grouped name (← result.evaluate inner) fields
      else return fields) []
    return .object fields

def evaluateAll : List Term → Scope → Except EvaluationError (List Value)
  | [], _ => .ok []
  | t :: rest, scope => do
    let v ← t.evaluate scope
    return v :: (← evaluateAll rest scope)

def follow : List Access → Scope → Value → Value.Result
  | [], _, v => .ok v
  | .field name :: rest, scope, v => do follow rest scope (← v.getField name)
  | .element index :: rest, scope, v => do
    let i ← index.evaluate scope
    follow rest scope (← v.getElement i)
  | .eachField names :: rest, scope, v => do
    let items ← v.spread.mapM fun item => names.foldlM (fun v name => v.getField name) item
    follow rest scope (.list items)
  | .each :: rest, scope, v => (v.spread.mapM (follow rest scope)).map .list

def evaluateFields : List ObjectField → Scope → List (String × Value) →
    Except EvaluationError (List (String × Value))
  | [], _, done => .ok done
  | .named name t :: rest, scope, done => do
    let v ← t.evaluate scope
    evaluateFields rest scope (Value.putField name v done)
  | .computed key t :: rest, scope, done => do
    let name ← (← key.evaluate scope).key
    let v ← t.evaluate scope
    evaluateFields rest scope (Value.putField name v done)

def renderPart : TemplatePart → Scope → Except EvaluationError String
  | .literal s, _ => .ok s
  | .interpolation t, scope => do return (← t.evaluate scope).text
  | .choice condition whenTrue whenFalse, scope => do
    if ← (← condition.evaluate scope).truth then renderParts whenTrue scope
    else renderParts whenFalse scope
  | .loop key value collection body, scope => do
    let elements ← (← collection.evaluate scope).elements
    let texts ← elements.mapM fun (k, v) => renderParts body (scope.bind key value k v)
    return String.join texts

def renderParts : List TemplatePart → Scope → Except EvaluationError String
  | [], _ => .ok ""
  | part :: rest, scope => do
    let s ← renderPart part scope
    return s ++ (← renderParts rest scope)

end

def Body.toState (b : Body) : Except StateError ResourceState :=
  b.attributes.foldlM (fun s (name, t) =>
    match t.evaluate [] with
    | .error e => .error (.evaluation name e)
    | .ok .null => .ok s
    | .ok v =>
      match v.toAttribute with
      | .error reason => .error (.unsupportedValue name reason)
      | .ok value => .ok (s.set name value)) .empty

end Monitoring
