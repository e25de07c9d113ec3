import Monitoring.Expression.Token

/-!
Reading match expressions.

    expression := conjunction (OR conjunction)*
    conjunction := unary (AND unary)*
    unary := NOT unary | "(" expression ")" | comparison
    comparison := [entity ":"] tag operator [value]

Chains of one operator grow to the left. The number of parentheses and NOTs that may still be
opened is an argument, `room`, on which reading recurses; chains recurse on the tokens left over.
The greatest height of a tree is an argument as well, `limit`.
-/

namespace Monitoring.Expression

open ParseErrorKind (maxNesting)

structure Reading (ts : List Token) where
  expression : Expression
  height : Nat
  rest : List Token
  shorter : rest.length < ts.length

abbrev Reader := (ts : List Token) → Except ParseError (Reading ts)

def foundIn (stop : Nat) : List Token → Found × Nat
  | [] => (.endOfInput, stop)
  | t :: _ => (.token t.text, t.offset)

def unexpected {α : Type} (stop : Nat) (ts : List Token) (kind : Found → ParseErrorKind) :
    Except ParseError α :=
  let (found, offset) := foundIn stop ts
  .error ⟨kind found, offset⟩

def operandText? : TokenKind → Option String
  | .word text => some text
  | .quoted content => some content
  | _ => none

def readEntity : List Token → Except ParseError (Option Entity × List Token)
  | first :: second :: rest =>
    if second.kind = .colon then
      match first.kind with
      | .word word =>
        match Entity.ofKeyword? word with
        | some entity => .ok (some entity, rest)
        | none => .error ⟨.unknownEntityOrigin word, first.offset⟩
      | _ => .error ⟨.unknownEntityOrigin first.text, first.offset⟩
    else .ok (none, first :: second :: rest)
  | ts => .ok (none, ts)

def readTag (stop : Nat) : List Token → Except ParseError (String × List Token)
  | [] => unexpected stop [] .unexpectedToken
  | t :: rest =>
    match operandText? t.kind with
    | none => unexpected stop (t :: rest) .unexpectedToken
    | some tag => if Text.isBlank tag then .error ⟨.blankTag, t.offset⟩ else .ok (tag, rest)

def readOperator (stop : Nat) (tag : String) :
    List Token → Except ParseError (ComparisonOperator × List Token)
  | [] => unexpected stop [] (.missingOperator tag)
  | t :: rest =>
    match t.kind with
    | .keyword (.comparison operator) => .ok (operator, rest)
    | .word word => .error ⟨.unknownOperator word, t.offset⟩
    | _ => unexpected stop (t :: rest) (.missingOperator tag)

def readValue (stop : Nat) (operator : ComparisonOperator) (ts : List Token) :
    Except ParseError (Option String × List Token) :=
  if operator.isUnary then .ok (none, ts)
  else
    match ts with
    | [] => unexpected stop [] (.missingValue operator)
    | t :: rest =>
      match operandText? t.kind with
      | none => unexpected stop (t :: rest) (.missingValue operator)
      | some value => .ok (some value, rest)

theorem readEntity_length {ts rest : List Token} {entity : Option Entity}
    (h : readEntity ts = .ok (entity, rest)) : rest.length ≤ ts.length := by
  unfold readEntity at h
  split at h
  · split at h
    · split at h
      · split at h
        · cases h; simp only [List.length_cons]; omega
        · cases h
      · cases h
    · cases h; simp
  · cases h; simp

theorem readTag_length {stop : Nat} {ts rest : List Token} {tag : String}
    (h : readTag stop ts = .ok (tag, rest)) : rest.length < ts.length := by
  unfold readTag at h
  split at h
  · cases h
  · split at h
    · cases h
    · split at h
      · cases h
      · cases h; simp

theorem readOperator_length {stop : Nat} {tag : String} {ts rest : List Token}
    {operator : ComparisonOperator} (h : readOperator stop tag ts = .ok (operator, rest)) :
    rest.length < ts.length := by
  unfold readOperator at h
  split at h
  · cases h
  · split at h <;> cases h
    simp

theorem readValue_length {stop : Nat} {operator : ComparisonOperator} {ts rest : List Token}
    {value : Option String} (h : readValue stop operator ts = .ok (value, rest)) :
    rest.length ≤ ts.length := by
  unfold readValue at h
  split at h
  · cases h; simp
  · split at h
    · cases h
    · split at h <;> cases h
      simp

def readComparison (stop : Nat) : Reader := fun ts =>
  match he : readEntity ts with
  | .error e => .error e
  | .ok (entity, afterEntity) =>
    match ht : readTag stop afterEntity with
    | .error e => .error e
    | .ok (tag, afterTag) =>
      match ho : readOperator stop tag afterTag with
      | .error e => .error e
      | .ok (operator, afterOperator) =>
        match hv : readValue stop operator afterOperator with
        | .error e => .error e
        | .ok (value, rest) =>
          .ok ⟨.comparison ⟨entity, tag, operator, value⟩, 1, rest, by
            have := readEntity_length he
            have := readTag_length ht
            have := readOperator_length ho
            have := readValue_length hv
            omega⟩

def readFurther (limit : Nat) (operator : LogicalOperator) (operand : Reader) {ts : List Token}
    (left : Reading ts) : Except ParseError (Reading ts) :=
  match h : left.rest with
  | [] => .ok left
  | t :: more =>
    if t.kind = .keyword (.logical operator) then
      match operand more with
      | .error e => .error e
      | .ok right =>
        let height := max left.height right.height + 1
        if limit < height then .error ⟨.nestingTooDeep, t.offset⟩
        else
          readFurther limit operator operand
            ⟨.logical operator left.expression right.expression, height, right.rest, by
              have := left.shorter
              have := right.shorter
              simp only [h, List.length_cons] at *; omega⟩
    else .ok left
  termination_by left.rest.length
  decreasing_by
    have := right.shorter
    simp only [h, List.length_cons]; omega

def readChain (limit : Nat) (operator : LogicalOperator) (operand : Reader) : Reader := fun ts =>
  (operand ts).bind (readFurther limit operator operand)

def readLogical (limit : Nat) (unary : Reader) : Reader :=
  readChain limit .disjunction (readChain limit .conjunction unary)

def closeParenthesis (stop : Nat) {ts : List Token} (inner : Reading ts) :
    Except ParseError (Reading ts) :=
  match h : inner.rest with
  | [] => unexpected stop [] .unclosedParenthesis
  | t :: rest =>
    if t.kind = .closeParenthesis then
      .ok { inner with
        rest := rest
        shorter := by have := inner.shorter; simp only [h, List.length_cons] at this; omega }
    else unexpected stop (t :: rest) .unclosedParenthesis

def negate (limit offset : Nat) {ts : List Token} (operand : Reading ts) :
    Except ParseError (Reading ts) :=
  if limit < operand.height + 1 then .error ⟨.nestingTooDeep, offset⟩
  else
    .ok { operand with
      expression := .negation operand.expression
      height := operand.height + 1 }

def Reading.after {ts : List Token} (t : Token) (r : Reading ts) : Reading (t :: ts) :=
  { r with shorter := Nat.lt_succ_of_lt r.shorter }

def readUnary (limit stop room : Nat) (ts : List Token) : Except ParseError (Reading ts) :=
  match ts with
  | [] => .error ⟨.unexpectedEnd, stop⟩
  | t :: rest =>
    match t.kind with
    | .keyword .negation =>
      match room with
      | 0 => .error ⟨.nestingTooDeep, t.offset⟩
      | room + 1 => do
        let operand ← readUnary limit stop room rest
        let negated ← negate limit t.offset operand
        return negated.after t
    | .openParenthesis =>
      match room with
      | 0 => .error ⟨.nestingTooDeep, t.offset⟩
      | room + 1 => do
        let inner ← readLogical limit (readUnary limit stop room) rest
        let closed ← closeParenthesis stop inner
        return closed.after t
    | .closeParenthesis => .error ⟨.unexpectedClosingParenthesis, t.offset⟩
    | _ => readComparison stop (t :: rest)
  termination_by structural room

def ofTokens (limit stop : Nat) (ts : List Token) : Except ParseError Expression :=
  if ts.isEmpty then .error ⟨.empty, 0⟩
  else do
    let r ← readLogical limit (readUnary limit stop limit) ts
    match r.rest with
    | [] => return r.expression
    | t :: rest =>
      if t.kind = .closeParenthesis then .error ⟨.unexpectedClosingParenthesis, t.offset⟩
      else unexpected stop (t :: rest) .unexpectedToken

def parse (text : String) : Except ParseError Expression := do
  ofTokens maxNesting text.utf8ByteSize (← Token.tokenize text)

end Monitoring.Expression
