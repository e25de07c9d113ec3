import Monitoring.Proofs.Expression.DescentSteps

/-!
The descent reads what the readers read. With calls enough for the tokens that are left it comes to
an end, with the result of the readers, the tokens that they leave over, and the depth that it
started at. The room of the readers is what the depth leaves of the limit.
-/

namespace Monitoring.Expression

namespace Descent

variable {limit stop calls room depth : Nat} {tokens rest : List Token}
variable {w : Walk} {enough : Prop}

def readPrimary (limit stop room : Nat) : Reader := fun ts =>
  if ts.head?.any (·.kind = .keyword .negation) then readComparison stop ts
  else readUnary limit stop room ts

def readTier (limit stop room : Nat) : Tier → Reader
  | .chain op => reader limit stop room (.chain op)
  | .unary => readUnary limit stop room
  | .primary => readPrimary limit stop room

def rank : Tier → Nat
  | .chain .disjunction => 3
  | .chain .conjunction => 2
  | .unary => 1
  | .primary => 0

theorem rank_operand_lt (op : LogicalOperator) : rank (.operand op) < rank (.chain op) := by
  cases op <;> decide

theorem readTier_operand (op : LogicalOperator) :
    readTier limit stop room (.operand op) = reader limit stop room (.operand op) := by
  cases op <;> rfl

theorem readUnary_closing {t : Token} {ts : List Token} (h : t.kind = .closeParenthesis) :
    readUnary limit stop room (t :: ts) = .error ⟨.unexpectedClosingParenthesis, t.offset⟩ := by
  unfold readUnary
  split <;> simp_all

theorem readPrimary_comparison {t : Token} {ts : List Token} (ho : t.kind ≠ .openParenthesis)
    (hc : t.kind ≠ .closeParenthesis) :
    readPrimary limit stop room (t :: ts) = readComparison stop (t :: ts) := by
  rw [readPrimary]
  split
  case isTrue => rfl
  case isFalse hn =>
    unfold readUnary
    split <;> simp_all

/-- What the functions give and what the readers give is the same with so many calls, wherever these
are enough for the tokens that are left. -/
structure Agrees (limit stop : Nat) (tokens : List Token) (calls : Nat) : Prop where
  tier : ∀ (tier : Tier) {room depth : Nat} {rest : List Token} {w : Walk} {enough : Prop},
    w.At tokens depth rest → depth + room = limit →
      (enough → 4 * rest.length + rank tier < calls) →
      Follows limit tokens enough (parse limit stop tokens calls tier) w depth
        ((readTier limit stop room tier rest).map Reading.outcome)
  behind : ∀ (op : LogicalOperator) {room depth : Nat} {ts : List Token} {left : Reading ts}
    {w : Walk} {enough : Prop}, w.At tokens depth left.rest → depth + room = limit →
      (enough → 4 * left.rest.length < calls) →
      Follows limit tokens enough
        (further limit stop tokens calls op (left.expression, left.height)) w depth
        ((readFurther limit op (reader limit stop room (.operand op)) left).map Reading.outcome)

theorem further_of_endsBefore {op : LogicalOperator} {left : Expression × Nat}
    (hends : (Tier.chain op).EndsBefore rest) (h : w.At tokens depth rest) :
    Follows limit tokens enough (further limit stop tokens (calls + 1) op left) w depth
      (.ok (left, rest)) := by
  rw [further]
  refine (peekIs_follows h _).bind_ok fun _ h => ?_
  cases rest with
  | nil => exact .pure left h
  | cons t more =>
    rw [List.head?_cons, Option.any_some, if_neg (by simpa using hends t more rfl)]
    exact .pure left h

theorem further_of_next {op : LogicalOperator} {t : Token} {left : Expression × Nat}
    {x : Except ParseError ((Expression × Nat) × List Token)}
    (hk : t.kind = .keyword (.logical op)) (h : w.At tokens depth (t :: rest))
    (hf : ∀ w : Walk, w.At tokens depth rest → Follows limit tokens enough (do
        let right ← parse limit stop tokens calls (.operand op)
        let height ← checkHeight limit (max left.2 right.2 + 1) t.offset
        further limit stop tokens calls op (.logical op left.1 right.1, height)) w depth x) :
    Follows limit tokens enough (further limit stop tokens (calls + 1) op left) w depth x := by
  rw [further]
  refine (peekIs_follows h _).bind_ok fun _ h => ?_
  rw [List.head?_cons, Option.any_some, if_pos (decide_eq_true hk)]
  exact (found_follows h).bind_ok fun _ h => (advance_follows h).bind_ok hf

section Step

variable (agrees : Agrees limit stop tokens calls)
include agrees

theorem chain_follows (op : LogicalOperator) (h : w.At tokens depth rest)
    (hroom : depth + room = limit) (hc : enough → 4 * rest.length + rank (.chain op) < calls + 1) :
    Follows limit tokens enough (parse limit stop tokens (calls + 1) (.chain op)) w depth
      ((readTier limit stop room (.chain op) rest).map Reading.outcome) := by
  have hrank := rank_operand_lt op
  have hoperand := agrees.tier (.operand op) h hroom fun he => by have := hc he; omega
  rw [readTier_operand] at hoperand
  rw [parse, readTier, reader_chain]
  refine hoperand.bind fun {left w} h => agrees.behind op h hroom fun he => ?_
  have := hc he
  have : left.rest.length < rest.length := left.shorter
  omega

theorem further_follows (op : LogicalOperator) {ts : List Token} {left : Reading ts}
    (h : w.At tokens depth left.rest) (hroom : depth + room = limit)
    (hc : enough → 4 * left.rest.length < calls + 1) :
    Follows limit tokens enough
      (further limit stop tokens (calls + 1) op (left.expression, left.height)) w depth
      ((readFurther limit op (reader limit stop room (.operand op)) left).map Reading.outcome) := by
  by_cases hends : (Tier.chain op).EndsBefore left.rest
  · rw [readFurther_of_endsBefore hends]
    exact further_of_endsBefore hends h
  · simp only [Tier.EndsBefore, not_forall, not_not] at hends
    obtain ⟨t, more, hrest, hk⟩ := hends
    have hshorter := left.shorter
    rw [hrest, List.length_cons] at hc hshorter
    refine further_of_next hk (hrest ▸ h) fun w h => ?_
    have hrank : rank (.operand op) < 3 := by cases op <;> decide
    have hright := agrees.tier (.operand op) h hroom fun he => by have := hc he; omega
    rw [readTier_operand] at hright
    cases ho : reader limit stop room (.operand op) more with
    | error e =>
      rw [ho] at hright
      rw [readFurther_eq_error hrest hk ho]
      exact hright.bind_error
    | ok right =>
      rw [ho] at hright
      have hsmaller := right.shorter
      let joined : Reading ts := ⟨.logical op left.expression right.expression,
        max left.height right.height + 1, right.rest, by omega⟩
      rw [readFurther_join left joined hrest hk ho rfl rfl rfl]
      refine hright.bind_ok fun w h => ?_
      have hcheck : Follows limit tokens enough _ w depth _ :=
        checkHeight_follows h joined.height t.offset
      split
      case isTrue high =>
        rw [if_pos high] at hcheck
        exact hcheck.bind_error
      case isFalse fits =>
        rw [if_neg fits] at hcheck
        refine hcheck.bind_ok fun w h => ?_
        have harrived : w.At tokens depth joined.rest := h
        refine agrees.behind op harrived hroom fun he => ?_
        have := hc he
        simp only [joined]
        omega

theorem primary_follows_parenthesis {t : Token} (ht : t.kind = .openParenthesis)
    (h : w.At tokens depth (t :: rest)) (hroom : depth + room = limit)
    (hc : enough → 4 * (rest.length + 1) < calls + 1) :
    Follows limit tokens enough (parse limit stop tokens (calls + 1) .primary) w depth
      ((readUnary limit stop room (t :: rest)).map Reading.outcome) := by
  rw [parse]
  refine (peek_follows h).bind_ok fun w h => ?_
  simp only [List.head?_cons, ht]
  cases room with
  | zero =>
    rw [readUnary_full (.inr ht)]
    exact (descend_full h t.offset hroom).bind_error
  | succ room =>
    rw [readUnary_parenthesis ht]
    refine (descend_follows h t.offset (by omega)).bind_ok fun w h => ?_
    rw [List.tail_cons] at h
    have hinner := agrees.tier (.chain .disjunction) h (by omega : depth + 1 + room = limit)
      fun he => by have := hc he; simp only [rank]; omega
    refine hinner.bind fun {inner w} h => (ascend_follows h).bind_ok fun w h => ?_
    rw [Nat.add_sub_cancel] at h
    have hclosing : Follows limit tokens enough _ w depth
        ((closeParenthesis stop inner).map Reading.outcome) := closing_follows h rfl
    generalize closeParenthesis stop inner = closed at hclosing ⊢
    cases closed with
    | error e => exact hclosing
    | ok r => exact hclosing

theorem primary_follows (h : w.At tokens depth rest) (hroom : depth + room = limit)
    (hc : enough → 4 * rest.length < calls + 1) :
    Follows limit tokens enough (parse limit stop tokens (calls + 1) .primary) w depth
      ((readPrimary limit stop room rest).map Reading.outcome) := by
  cases rest with
  | nil =>
    rw [parse, readPrimary, readUnary]
    exact (peek_follows h).bind_ok fun _ _ => .throw _
  | cons t more =>
    cases ht : t.kind with
    | openParenthesis =>
      rw [readPrimary, List.head?_cons, Option.any_some, if_neg (by simp [ht])]
      exact primary_follows_parenthesis agrees ht h hroom hc
    | closeParenthesis =>
      rw [readPrimary, List.head?_cons, Option.any_some, if_neg (by simp [ht]), parse,
        readUnary_closing ht]
      refine (peek_follows h).bind_ok fun _ _ => ?_
      simp only [List.head?_cons, ht]
      exact .throw _
    | _ =>
      rw [readPrimary_comparison (by simp [ht]) (by simp [ht]), parse]
      refine (peek_follows h).bind_ok fun _ h => ?_
      simp only [List.head?_cons, ht]
      exact comparison_follows h

theorem unary_follows_negation {t : Token} (ht : t.kind = .keyword .negation)
    (h : w.At tokens depth (t :: rest)) (hroom : depth + room = limit)
    (hc : enough → 4 * (rest.length + 1) + 1 < calls + 1) :
    Follows limit tokens enough (do
        let (_, offset) ← found stop tokens
        descend limit tokens offset
        let (operand, height) ← parse limit stop tokens calls .unary
        ascend
        let height ← checkHeight limit (height + 1) offset
        return (.negation operand, height)) w depth
      ((readUnary limit stop room (t :: rest)).map Reading.outcome) := by
  refine (found_follows h).bind_ok fun w h => ?_
  cases room with
  | zero =>
    rw [readUnary_full (.inl ht)]
    exact (descend_full h t.offset hroom).bind_error
  | succ room =>
    rw [readUnary_negation ht]
    refine (descend_follows h t.offset (by omega)).bind_ok fun w h => ?_
    rw [List.tail_cons] at h
    have hoperand := agrees.tier .unary h (by omega : depth + 1 + room = limit)
      fun he => by have := hc he; simp only [rank]; omega
    refine hoperand.bind fun {operand w} h => (ascend_follows h).bind_ok fun w h => ?_
    rw [Nat.add_sub_cancel] at h
    have hcheck : Follows limit tokens enough _ w depth _ :=
      checkHeight_follows h (operand.height + 1) t.offset
    rw [negate]
    split
    case isTrue high =>
      rw [if_pos high] at hcheck
      exact hcheck.bind_error
    case isFalse fits =>
      rw [if_neg fits] at hcheck
      exact hcheck.bind_ok fun _ h => .pure _ h

theorem unary_follows (h : w.At tokens depth rest) (hroom : depth + room = limit)
    (hc : enough → 4 * rest.length + 1 < calls + 1) :
    Follows limit tokens enough (parse limit stop tokens (calls + 1) .unary) w depth
      ((readUnary limit stop room rest).map Reading.outcome) := by
  rw [parse]
  refine (peekIs_follows h _).bind_ok fun w h => ?_
  split
  case isTrue hn =>
    cases rest with
    | nil => cases hn
    | cons t more => exact unary_follows_negation agrees (by simpa using hn) h hroom hc
  case isFalse hn =>
    have hprimary := agrees.tier .primary h hroom
      fun he => by have := hc he; simp only [rank]; omega
    rw [readTier, readPrimary, if_neg hn] at hprimary
    exact hprimary

end Step

theorem agrees_of_calls (limit stop : Nat) (tokens : List Token) (calls : Nat) :
    Agrees limit stop tokens calls := by
  -- on the calls: each function makes them with one less, and each round takes a token
  induction calls with
  | zero =>
    refine ⟨fun tier _ _ _ _ _ _ _ hc => ?_, fun op _ _ _ _ _ _ _ _ hc => ?_⟩
    · exact .cut (fun he => nomatch hc he) rfl
    · exact .cut (fun he => nomatch hc he) rfl
  | succ calls agrees =>
    refine ⟨fun tier _ _ _ _ _ h hroom hc => ?_, fun op _ _ _ _ _ _ => further_follows agrees op⟩
    cases tier with
    | chain op => exact chain_follows agrees op h hroom hc
    | unary => exact unary_follows agrees h hroom hc
    | primary => exact primary_follows agrees h hroom hc

theorem whole_follows (limit stop : Nat) (tokens : List Token) (calls : Nat) :
    Follows limit tokens (4 * tokens.length + 3 < calls) (whole limit stop tokens calls)
      ⟨⟨0, 0⟩, []⟩ 0 ((ofTokens limit stop tokens).map fun e => (e, [])) := by
  unfold whole ofTokens
  split
  case isTrue => exact .throw _
  case isFalse =>
    have hstart : Walk.At tokens ⟨⟨0, 0⟩, []⟩ 0 tokens := ⟨rfl, List.drop_zero⟩
    have hlogical := (agrees_of_calls limit stop tokens calls).tier (.chain .disjunction) hstart
      (Nat.zero_add limit) id
    refine hlogical.bind fun {r w} h => ?_
    rw [Reading.outcome] at h ⊢
    cases hrest : r.rest with
    | nil =>
      rw [hrest] at h
      exact (peek_follows h).bind_ok fun _ h => .pure _ h
    | cons t more =>
      rw [hrest] at h
      refine (peek_follows h).bind_ok fun _ h => ?_
      dsimp only [List.head?_cons]
      split
      case isTrue => exact .throw _
      case isFalse => exact fail_follows h _

theorem whole_runs_iff (limit stop : Nat) (tokens : List Token)
    (result : Except ParseError Expression) :
    (∃ w, Runs (whole limit stop tokens) ⟨⟨0, 0⟩, []⟩ result w) ↔
      result = ofTokens limit stop tokens := by
  have hid : (ofTokens limit stop tokens).map id = ofTokens limit stop tokens :=
    congrFun Except.map_id _
  have honly (result : Except ParseError Expression) (w : Walk)
      (h : Runs (whole limit stop tokens) ⟨⟨0, 0⟩, []⟩ result w) :
      result = ofTokens limit stop tokens := by
    obtain ⟨calls, run⟩ := h
    exact ((whole_follows limit stop tokens calls).of_run run).1.trans hid
  refine ⟨fun ⟨w, h⟩ => honly result w h, ?_⟩
  rintro rfl
  obtain ⟨result, w, run⟩ := (whole_follows limit stop tokens _).exists_run (Nat.lt_succ_self _)
  have hruns : Runs (whole limit stop tokens) ⟨⟨0, 0⟩, []⟩ result w := ⟨_, run⟩
  exact ⟨w, honly result w hruns ▸ hruns⟩

end Descent

end Monitoring.Expression
