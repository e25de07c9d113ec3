import Monitoring.Proofs.Expression.Completeness

/-!
How far an expression has come after some of its tokens: what is awaited next, and how many
parentheses stand open. A machine that keeps no more than that refuses a token as soon as no
expression goes on with it, since from wherever it stands there is a way to the end.
-/

namespace Monitoring.Expression

inductive Awaited
  | operand
  | colonOrOperator
  | tag
  | operator
  | value
  | continuation
  deriving DecidableEq, Repr

structure Progress where
  awaited : Awaited
  depth : Nat
  deriving DecidableEq, Repr

def Derivable (ks : List TokenKind) : Prop := ∃ n e, Derives (.chain .disjunction) n ks e

def Viable (ks : List TokenKind) : Prop := ∃ more, Derivable (ks ++ more)

namespace Progress

def start : Progress := ⟨.operand, 0⟩

def finished : Progress := ⟨.continuation, 0⟩

@[simp]
theorem mk_eq_finished {awaited : Awaited} {depth : Nat} :
    (⟨awaited, depth⟩ : Progress) = finished ↔ awaited = .continuation ∧ depth = 0 := by
  rw [finished, mk.injEq]

def stepTag (depth : Nat) (kind : TokenKind) : Option Progress :=
  match operandText? kind with
  | some tag => if Text.isBlank tag then none else some ⟨.operator, depth⟩
  | none => none

def stepOperator (depth : Nat) : TokenKind → Option Progress
  | .keyword (.comparison operator) =>
    some ⟨if operator.isUnary then .continuation else .value, depth⟩
  | _ => none

def step : Progress → TokenKind → Option Progress
  | ⟨.operand, depth⟩, .keyword .negation => some ⟨.operand, depth⟩
  | ⟨.operand, depth⟩, .openParenthesis => some ⟨.operand, depth + 1⟩
  | ⟨.operand, depth⟩, .word word =>
    if (Entity.ofKeyword? word).isSome then some ⟨.colonOrOperator, depth⟩
    else stepTag depth (.word word)
  | ⟨.operand, depth⟩, kind => stepTag depth kind
  | ⟨.colonOrOperator, depth⟩, .colon => some ⟨.tag, depth⟩
  | ⟨.colonOrOperator, depth⟩, kind => stepOperator depth kind
  | ⟨.tag, depth⟩, kind => stepTag depth kind
  | ⟨.operator, depth⟩, kind => stepOperator depth kind
  | ⟨.value, depth⟩, kind => (operandText? kind).map fun _ => ⟨.continuation, depth⟩
  | ⟨.continuation, depth⟩, .keyword (.logical _) => some ⟨.operand, depth⟩
  | ⟨.continuation, depth + 1⟩, .closeParenthesis => some ⟨.continuation, depth⟩
  | ⟨.continuation, _⟩, _ => none

def run (p : Progress) (ks : List TokenKind) : Option Progress := ks.foldlM step p

section Run

variable {p q : Progress} {kind : TokenKind} {ks ls : List TokenKind} {text : String}
variable (depth : Nat)

@[simp]
theorem run_nil : p.run [] = some p := rfl

theorem run_cons : p.run (kind :: ks) = (p.step kind).bind fun q => q.run ks := rfl

theorem run_append : p.run (ks ++ ls) = (p.run ks).bind fun q => q.run ls :=
  List.foldlM_append

theorem run_cons_of_step (h : p.step kind = some q) : p.run (kind :: ks) = q.run ks := by
  rw [run_cons, h, Option.bind_some]

theorem run_append_of_run (h : p.run ks = some q) : p.run (ks ++ ls) = q.run ls := by
  rw [run_append, h, Option.bind_some]

theorem run_append_of_run_eq_none (h : p.run ks = none) : p.run (ks ++ ls) = none := by
  rw [run_append, h, Option.bind_none]

theorem run_singleton : p.run [kind] = p.step kind := by
  rw [run_cons]
  exact Option.bind_fun_some (p.step kind)

theorem stepTag_of_operandText (h : OperandText kind text) (filled : Text.isBlank text = false) :
    stepTag depth kind = some ⟨.operator, depth⟩ := by
  simp [stepTag, operandText?_eq_some_iff.mpr h, filled]

theorem step_operand_of_operandText (h : OperandText kind text)
    (filled : Text.isBlank text = false) :
    step ⟨.operand, depth⟩ kind = some ⟨.operator, depth⟩ ∨
      step ⟨.operand, depth⟩ kind = some ⟨.colonOrOperator, depth⟩ := by
  have htag : stepTag depth kind = some ⟨.operator, depth⟩ := stepTag_of_operandText depth h filled
  cases h with
  | quoted content => exact .inl htag
  | word word =>
    rw [step]
    split
    case isTrue => exact .inr rfl
    case isFalse => exact .inl htag

theorem step_value_of_operandText (h : OperandText kind text) :
    step ⟨.value, depth⟩ kind = some ⟨.continuation, depth⟩ := by
  simp [step, operandText?_eq_some_iff.mpr h]

theorem run_entityText {es : List TokenKind} {entity : Entity} (h : EntityText es (some entity)) :
    run ⟨.operand, depth⟩ es = some ⟨.tag, depth⟩ := by
  cases h with
  | present spelled =>
    refine run_cons_of_step (q := ⟨.colonOrOperator, depth⟩) ?_
    rw [step, Entity.ofKeyword?_eq_some_iff.mpr spelled]
    rfl

theorem run_valueText {vs : List TokenKind} {operator : ComparisonOperator} {value : Option String}
    (h : ValueText operator vs value) :
    (stepOperator depth (.keyword (.comparison operator))).bind (fun q => q.run vs) =
      some ⟨.continuation, depth⟩ := by
  rw [stepOperator, Option.bind_some]
  cases h with
  | absent unary => rw [if_pos unary, run_nil]
  | present binary operand =>
    rw [if_neg (by simp [binary]), run_singleton, step_value_of_operandText depth operand]

theorem run_comparisonText {c : Comparison} (h : ComparisonText ks c) :
    run ⟨.operand, depth⟩ ks = some ⟨.continuation, depth⟩ := by
  obtain ⟨entity, tag, filled, value⟩ := h
  have hvalue := run_valueText depth value
  generalize c.entity = entity? at entity
  cases entity with
  | absent =>
    rw [List.nil_append]
    rcases step_operand_of_operandText depth tag filled with h | h
    · rw [run_cons_of_step h]
      exact hvalue
    · rw [run_cons_of_step h]
      exact hvalue
  | present spelled =>
    rw [run_append_of_run (run_entityText depth (.present spelled)), run_cons, step,
      stepTag_of_operandText depth tag filled]
    exact hvalue

end Run

theorem run_of_derives {tier : Tier} {n : Nat} {ks : List TokenKind} {e : Expression}
    (h : Derives tier n ks e) (depth : Nat) :
    run ⟨.operand, depth⟩ ks = some ⟨.continuation, depth⟩ := by
  induction h generalizing depth with
  | operand _ ih => exact ih depth
  | join _ _ ihl ihr =>
    rw [run_append_of_run (ihl depth), run_cons_of_step (q := ⟨.operand, depth⟩) rfl]
    exact ihr depth
  | negation _ ih =>
    rw [run_cons_of_step (q := ⟨.operand, depth⟩) rfl]
    exact ih depth
  | primary _ ih => exact ih depth
  | parenthesized _ ih =>
    rw [run_cons_of_step (q := ⟨.operand, depth + 1⟩) rfl, run_append_of_run (ih (depth + 1))]
    rfl
  | comparison h => exact run_comparisonText depth h

def completion (p : Progress) : List TokenKind :=
  let some := TokenKind.quoted "a"
  let present := TokenKind.keyword (.comparison .notEmpty)
  (match p.awaited with
    | .operand => [some, present]
    | .colonOrOperator => [present]
    | .tag => [some, present]
    | .operator => [present]
    | .value => [some]
    | .continuation => []) ++ List.replicate p.depth .closeParenthesis

theorem run_closeParentheses (depth : Nat) :
    run ⟨.continuation, depth⟩ (List.replicate depth .closeParenthesis) = some finished := by
  induction depth with
  | zero => rfl
  | succ depth ih =>
    rw [List.replicate_succ, run_cons_of_step (q := ⟨.continuation, depth⟩) rfl]
    exact ih

theorem run_completion (p : Progress) : p.run p.completion = some finished := by
  obtain ⟨awaited, depth⟩ := p
  rw [completion, run_append_of_run (q := ⟨.continuation, depth⟩)]
  · exact run_closeParentheses depth
  · have filled : Text.isBlank "a" = false := by decide
    cases awaited <;> simp [run_cons, step, stepTag, stepOperator, operandText?, filled,
      ComparisonOperator.isUnary]

end Progress

end Monitoring.Expression
