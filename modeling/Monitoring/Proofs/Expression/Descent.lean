import Monitoring.Proofs.Expression.Grammar

/-!
The descent into an expression with its bookkeeping. Its place among the tokens and the number of
parentheses and NOTs around it are a state, which is kept each time it changes. That the functions
come to an end is not taken for granted: they are given a number of calls that may be open at a
time, and a descent that needs more has no result.
-/

namespace Monitoring.Expression

structure Cursor where
  position : Nat
  depth : Nat
  deriving DecidableEq, Repr

structure Walk where
  here : Cursor
  passed : List Cursor
  deriving DecidableEq, Repr

abbrev Descent := ExceptT ParseError (StateT Walk Option)

namespace Descent

variable {α : Type} (limit stop : Nat) (tokens : List Token)

def runFrom (m : Descent α) (w : Walk) : Option (Except ParseError α × Walk) :=
  (ExceptT.run m).run w

def Runs (m : Nat → Descent α) (w : Walk) (result : Except ParseError α) (w' : Walk) : Prop :=
  ∃ calls, (m calls).runFrom w = some (result, w')

def moveTo (c : Cursor) : Descent Unit := modify fun w => ⟨c, w.here :: w.passed⟩

def peek : Descent (Option Token) := do
  let w ← get
  return tokens[w.here.position]?

def peekIs (kind : TokenKind) : Descent Bool := do
  let next ← peek tokens
  return next.any (·.kind = kind)

def advance : Descent Unit := do
  let w ← get
  if w.here.position < tokens.length then
    moveTo { w.here with position := w.here.position + 1 }

def found : Descent (Found × Nat) := do
  let next ← peek tokens
  return foundIn stop next.toList

def fail (kind : Found → ParseErrorKind) : Descent α := do
  let (what, offset) ← found stop tokens
  throw ⟨kind what, offset⟩

/-- Takes the next token and enters one more level, and only then looks how deep that is. -/
def descend (offset : Nat) : Descent Unit := do
  advance tokens
  let w ← get
  moveTo { w.here with depth := w.here.depth + 1 }
  if limit < w.here.depth + 1 then throw ⟨.nestingTooDeep, offset⟩

def ascend : Descent Unit := do
  let w ← get
  moveTo { w.here with depth := w.here.depth - 1 }

def checkHeight (height offset : Nat) : Descent Nat :=
  if limit < height then throw ⟨.nestingTooDeep, offset⟩ else return height

def entityOrigin : Descent (Option Entity) := do
  let w ← get
  match tokens[w.here.position]?, tokens[w.here.position + 1]? with
  | some first, some second =>
    if second.kind = .colon then
      match first.kind with
      | .word word =>
        match Entity.ofKeyword? word with
        | some entity => do
          moveTo { w.here with position := w.here.position + 2 }
          return some entity
        | none => throw ⟨.unknownEntityOrigin word, first.offset⟩
      | _ => throw ⟨.unknownEntityOrigin first.text, first.offset⟩
    else return none
  | _, _ => return none

def textOperand : Descent (Option String) := do
  let next ← peek tokens
  match next.bind (operandText? ·.kind) with
  | some text => do
    advance tokens
    return some text
  | none => return none

def tag : Descent String := do
  let (_, offset) ← found stop tokens
  match ← textOperand tokens with
  | some tag => if Text.isBlank tag then throw ⟨.blankTag, offset⟩ else return tag
  | none => fail stop tokens .unexpectedToken

def operator (tag : String) : Descent ComparisonOperator := do
  match ← peek tokens with
  | none => fail stop tokens (.missingOperator tag)
  | some t =>
    match t.kind with
    | .keyword (.comparison operator) => do
      advance tokens
      return operator
    | .word word => throw ⟨.unknownOperator word, t.offset⟩
    | _ => fail stop tokens (.missingOperator tag)

def value (operator : ComparisonOperator) : Descent (Option String) :=
  if operator.isUnary then return none
  else do
    match ← textOperand tokens with
    | some value => return some value
    | none => fail stop tokens (.missingValue operator)

def comparison : Descent Comparison := do
  let entity ← entityOrigin tokens
  let tag ← tag stop tokens
  let operator ← operator stop tokens tag
  let value ← value stop tokens operator
  return ⟨entity, tag, operator, value⟩

def cutOff : Descent α := ExceptT.mk fun _ => none

mutual

def parse : Nat → Tier → Descent (Expression × Nat)
  | 0, _ => cutOff
  | calls + 1, .chain op => do
    let first ← parse calls (.operand op)
    further calls op first
  | calls + 1, .unary => do
    if ← peekIs tokens (.keyword .negation) then
      let (_, offset) ← found stop tokens
      descend limit tokens offset
      let (operand, height) ← parse calls .unary
      ascend
      let height ← checkHeight limit (height + 1) offset
      return (.negation operand, height)
    else parse calls .primary
  | calls + 1, .primary => do
    match ← peek tokens with
    | none => throw ⟨.unexpectedEnd, stop⟩
    | some t =>
      match t.kind with
      | .openParenthesis => do
        descend limit tokens t.offset
        let inner ← parse calls (.chain .disjunction)
        ascend
        if ← peekIs tokens .closeParenthesis then
          advance tokens
          return inner
        else fail stop tokens .unclosedParenthesis
      | .closeParenthesis => throw ⟨.unexpectedClosingParenthesis, t.offset⟩
      | _ => do
        let c ← comparison stop tokens
        return (.comparison c, 1)

def further : Nat → LogicalOperator → Expression × Nat → Descent (Expression × Nat)
  | 0, _, _ => cutOff
  | calls + 1, op, left => do
    if ← peekIs tokens (.keyword (.logical op)) then
      let (_, offset) ← found stop tokens
      advance tokens
      let right ← parse calls (.operand op)
      let height ← checkHeight limit (max left.2 right.2 + 1) offset
      further calls op (.logical op left.1 right.1, height)
    else return left

end

def whole (calls : Nat) : Descent Expression :=
  if tokens.isEmpty then throw ⟨.empty, 0⟩
  else do
    let (e, _) ← parse limit stop tokens calls (.chain .disjunction)
    match ← peek tokens with
    | none => return e
    | some t =>
      if t.kind = .closeParenthesis then throw ⟨.unexpectedClosingParenthesis, t.offset⟩
      else fail stop tokens .unexpectedToken

end Descent

end Monitoring.Expression
