import Monitoring.Proofs.Expression.Completeness
import Monitoring.Proofs.Expression.Descent

namespace Monitoring.Expression

def Reading.outcome {ts : List Token} (r : Reading ts) : (Expression × Nat) × List Token :=
  ((r.expression, r.height), r.rest)

namespace Walk

def Shallow (limit : Nat) (w : Walk) : Prop := ∀ c ∈ w.here :: w.passed, c.depth ≤ limit + 1

structure At (tokens : List Token) (w : Walk) (depth : Nat) (rest : List Token) : Prop where
  depth_eq : w.here.depth = depth
  drop_eq : tokens.drop w.here.position = rest

structure Leads (limit size : Nat) (w w' : Walk) : Prop where
  position_le : w'.here.position ≤ max w.here.position size
  shallow : w.Shallow limit → w'.Shallow limit

variable {limit size : Nat} {w w' w'' : Walk}

theorem Leads.refl (w : Walk) : w.Leads limit size w := ⟨Nat.le_max_left _ _, id⟩

theorem Leads.trans (h : w.Leads limit size w') (h' : w'.Leads limit size w'') :
    w.Leads limit size w'' := by
  refine ⟨?_, h'.shallow ∘ h.shallow⟩
  have := h.position_le
  have := h'.position_le
  omega

theorem leads_cons {c : Cursor} (hp : c.position ≤ max w.here.position size)
    (hd : c.depth ≤ max w.here.depth (limit + 1)) :
    w.Leads limit size ⟨c, w.here :: w.passed⟩ := by
  refine ⟨hp, fun h => List.forall_mem_cons.mpr ⟨?_, h⟩⟩
  have hhere : w.here.depth ≤ limit + 1 := h w.here List.mem_cons_self
  exact Nat.le_trans hd (Nat.max_le.mpr ⟨hhere, Nat.le_refl _⟩)

end Walk

namespace Descent

variable {α β γ δ : Type} {limit stop calls room depth : Nat} {tokens rest : List Token}
variable {w : Walk} {enough : Prop}

section Run

variable {m : Descent α} {f : α → Descent β} {w' : Walk}

theorem runFrom_bind_of_ok {a : α} (h : m.runFrom w = some (.ok a, w')) :
    (m >>= f).runFrom w = (f a).runFrom w' := by
  rw [runFrom] at h
  rw [runFrom, ExceptT.run_bind, StateT.run_bind, h]
  rfl

theorem runFrom_bind_of_error {e : ParseError} (h : m.runFrom w = some (.error e, w')) :
    (m >>= f).runFrom w = some (.error e, w') := by
  rw [runFrom] at h
  rw [runFrom, ExceptT.run_bind, StateT.run_bind, h]
  rfl

theorem runFrom_bind_of_none (h : m.runFrom w = none) : (m >>= f).runFrom w = none := by
  rw [runFrom] at h
  rw [runFrom, ExceptT.run_bind, StateT.run_bind, h]
  rfl

end Run

/-- From `w` the descent comes to an end with the given result, if it has calls enough. Unless it
fails, it leaves the given tokens over then and stands at the given depth. -/
inductive Follows (limit : Nat) (tokens : List Token) (enough : Prop) (m : Descent α) (w : Walk)
    (depth : Nat) : Except ParseError (α × List Token) → Prop
  | ok {a : α} {rest : List Token} {w' : Walk} (run : m.runFrom w = some (.ok a, w'))
      (leads : w.Leads limit tokens.length w') (arrived : w'.At tokens depth rest) :
      Follows limit tokens enough m w depth (.ok (a, rest))
  | error {e : ParseError} {w' : Walk} (run : m.runFrom w = some (.error e, w'))
      (leads : w.Leads limit tokens.length w') : Follows limit tokens enough m w depth (.error e)
  | cut {x : Except ParseError (α × List Token)} (short : ¬enough) (run : m.runFrom w = none) :
      Follows limit tokens enough m w depth x

namespace Follows

variable {m : Descent α} {f : α → Descent β}

theorem bind_error {e : ParseError} {d : Nat}
    (h : Follows limit tokens enough m w d (.error e)) :
    Follows limit tokens enough (m >>= f) w depth (.error e) := by
  cases h with
  | error run leads => exact .error (runFrom_bind_of_error run) leads
  | cut short run => exact .cut short (runFrom_bind_of_none run)

theorem bind_ok {a : α} {d : Nat} {x : Except ParseError (β × List Token)}
    (h : Follows limit tokens enough m w d (.ok (a, rest)))
    (hf : ∀ w' : Walk, w'.At tokens d rest → Follows limit tokens enough (f a) w' depth x) :
    Follows limit tokens enough (m >>= f) w depth x := by
  cases h with
  | ok run leads arrived =>
    have hbind := runFrom_bind_of_ok (f := f) run
    cases hf _ arrived with
    | ok run' leads' arrived' => exact .ok (hbind.trans run') (leads.trans leads') arrived'
    | error run' leads' => exact .error (hbind.trans run') (leads.trans leads')
    | cut short run' => exact .cut short (hbind.trans run')
  | cut short run => exact .cut short (runFrom_bind_of_none run)

theorem bind {x : Except ParseError γ} {out : γ → α × List Token}
    {next : γ → Except ParseError δ} {out' : δ → β × List Token} {d : Nat}
    (h : Follows limit tokens enough m w d (x.map out))
    (hf : ∀ {r} {w' : Walk}, w'.At tokens d (out r).2 →
      Follows limit tokens enough (f (out r).1) w' depth ((next r).map out')) :
    Follows limit tokens enough (m >>= f) w depth ((x >>= next).map out') := by
  cases x with
  | error e => exact bind_error h
  | ok r => exact bind_ok h fun _ h => hf h

theorem pure (a : α) (h : w.At tokens depth rest) :
    Follows limit tokens enough (Pure.pure a) w depth (.ok (a, rest)) :=
  .ok rfl (.refl w) h

theorem throw (e : ParseError) :
    Follows limit tokens enough (MonadExcept.throw e : Descent α) w depth (.error e) :=
  .error rfl (.refl w)

theorem get_bind {f : Walk → Descent α} {x : Except ParseError (α × List Token)}
    (h : Follows limit tokens enough (f w) w depth x) :
    Follows limit tokens enough (get >>= f) w depth x := by
  have hget : runFrom (get >>= f) w = (f w).runFrom w := runFrom_bind_of_ok rfl
  cases h with
  | ok run leads arrived => exact .ok (hget.trans run) leads arrived
  | error run leads => exact .error (hget.trans run) leads
  | cut short run => exact .cut short (hget.trans run)

theorem moveTo {c : Cursor} (hp : c.position ≤ max w.here.position tokens.length)
    (hc : c.depth ≤ max w.here.depth (limit + 1)) (hd : c.depth = depth)
    (hr : tokens.drop c.position = rest) :
    Follows limit tokens enough (moveTo c) w depth (.ok ((), rest)) :=
  .ok rfl (Walk.leads_cons hp hc) ⟨hd, hr⟩

theorem of_run {x : Except ParseError γ} {out : γ → α × List Token}
    {result : Except ParseError α} {w' : Walk}
    (h : Follows limit tokens enough m w depth (x.map out))
    (hrun : m.runFrom w = some (result, w')) :
    result = x.map (fun r => (out r).1) ∧ w.Leads limit tokens.length w' ∧
      ∀ r, x = .ok r → w'.At tokens depth (out r).2 := by
  cases x with
  | error e =>
    cases h with
    | error run leads =>
      cases run.symm.trans hrun
      exact ⟨rfl, leads, nofun⟩
    | cut _ run => cases run.symm.trans hrun
  | ok r =>
    change Follows limit tokens enough m w depth (.ok ((out r).1, (out r).2)) at h
    cases h with
    | ok run leads arrived =>
      cases run.symm.trans hrun
      refine ⟨rfl, leads, ?_⟩
      rintro _ ⟨⟩
      exact arrived
    | cut _ run => cases run.symm.trans hrun

theorem exists_run {x : Except ParseError (α × List Token)}
    (h : Follows limit tokens enough m w depth x) (he : enough) :
    ∃ result w', m.runFrom w = some (result, w') := by
  cases h with
  | ok run => exact ⟨_, _, run⟩
  | error run => exact ⟨_, _, run⟩
  | cut short => exact absurd he short

end Follows

section Pieces

variable (h : w.At tokens depth rest)
include h

theorem peek_follows :
    Follows limit tokens enough (peek tokens) w depth (.ok (rest.head?, rest)) := by
  rw [← h.drop_eq, List.head?_drop]
  exact .get_bind (.pure _ ⟨h.depth_eq, rfl⟩)

theorem peekIs_follows (kind : TokenKind) :
    Follows limit tokens enough (peekIs tokens kind) w depth
      (.ok (rest.head?.any (·.kind = kind), rest)) :=
  (peek_follows h).bind_ok fun _ h => .pure _ h

theorem found_follows :
    Follows limit tokens enough (found stop tokens) w depth (.ok (foundIn stop rest, rest)) := by
  refine (peek_follows h).bind_ok fun _ h => ?_
  cases rest with
  | nil => exact .pure _ h
  | cons t more => exact .pure _ h

theorem fail_follows (kind : Found → ParseErrorKind) {d : Nat} :
    Follows limit tokens enough (fail stop tokens kind : Descent α) w d
      (unexpected stop rest kind) :=
  (found_follows h).bind_ok fun _ _ => .throw _

theorem advance_follows :
    Follows limit tokens enough (advance tokens) w depth (.ok ((), rest.tail)) := by
  refine .get_bind ?_
  rw [← h.drop_eq, List.tail_drop]
  split
  case isTrue hp =>
    exact .moveTo (Nat.le_trans hp (Nat.le_max_right _ _)) (Nat.le_max_left _ _) h.depth_eq rfl
  case isFalse hp =>
    refine .pure () ⟨h.depth_eq, ?_⟩
    rw [List.drop_eq_nil_of_le (by omega), List.drop_eq_nil_of_le (by omega)]

theorem enter_follows (hl : depth ≤ limit) :
    Follows limit tokens enough (moveTo { w.here with depth := w.here.depth + 1 }) w (depth + 1)
      (.ok ((), rest)) := by
  have := h.depth_eq
  exact .moveTo (Nat.le_max_left _ _) (by simp only; omega) (congrArg (· + 1) h.depth_eq) h.drop_eq

theorem descend_follows (offset : Nat) (hl : depth < limit) :
    Follows limit tokens enough (descend limit tokens offset) w (depth + 1)
      (.ok ((), rest.tail)) := by
  refine (advance_follows h).bind_ok fun w h => .get_bind ?_
  refine (enter_follows h (Nat.le_of_lt hl)).bind_ok fun _ h' => ?_
  rw [h.depth_eq, if_neg (by omega)]
  exact .pure () h'

theorem descend_full (offset : Nat) (hl : depth = limit) :
    Follows limit tokens enough (descend limit tokens offset) w (depth + 1)
      (.error ⟨.nestingTooDeep, offset⟩) := by
  refine (advance_follows h).bind_ok fun w h => .get_bind ?_
  refine (enter_follows h (Nat.le_of_eq hl)).bind_ok fun _ _ => ?_
  rw [h.depth_eq, if_pos (by omega)]
  exact .throw _

theorem ascend_follows : Follows limit tokens enough ascend w (depth - 1) (.ok ((), rest)) :=
  .get_bind (.moveTo (Nat.le_max_left _ _) (by simp only; omega) (congrArg (· - 1) h.depth_eq)
    h.drop_eq)

theorem checkHeight_follows (height offset : Nat) :
    Follows limit tokens enough (checkHeight limit height offset) w depth
      (if limit < height then .error ⟨.nestingTooDeep, offset⟩ else .ok (height, rest)) := by
  rw [checkHeight]
  split
  case isTrue => exact .throw _
  case isFalse => exact .pure _ h

theorem entityOrigin_follows :
    Follows limit tokens enough (entityOrigin tokens) w depth (readEntity rest) := by
  refine .get_bind ?_
  have hnext (n : Nat) : tokens[w.here.position + n]? = rest[n]? := by
    rw [← h.drop_eq, List.getElem?_drop]
  have hfirst : tokens[w.here.position]? = rest[0]? := hnext 0
  rw [hfirst, hnext 1]
  match rest with
  | [] => exact .pure none h
  | [_] => exact .pure none h
  | first :: second :: more =>
    dsimp only [List.getElem?_cons_zero, List.getElem?_cons_succ]
    rw [readEntity]
    split
    case isFalse => exact .pure none h
    case isTrue =>
      cases first.kind with
      | word word =>
        dsimp only
        cases Entity.ofKeyword? word with
        | none => exact .throw _
        | some entity =>
          have hmore : tokens.drop (w.here.position + 2) = more := by
            rw [← List.drop_drop, h.drop_eq]
            rfl
          have hsize := congrArg List.length h.drop_eq
          rw [List.length_drop, List.length_cons, List.length_cons] at hsize
          have hmoved : Follows limit tokens enough
              (Descent.moveTo { w.here with position := w.here.position + 2 }) w depth
              (.ok ((), more)) :=
            .moveTo (by simp only; omega) (Nat.le_max_left _ _) h.depth_eq hmore
          exact hmoved.bind_ok fun _ h => .pure _ h
      | _ => exact .throw _

theorem textOperand_follows_some {text : String}
    (ht : rest.head?.bind (operandText? ·.kind) = some text) :
    Follows limit tokens enough (textOperand tokens) w depth (.ok (some text, rest.tail)) := by
  refine (peek_follows h).bind_ok fun _ h => ?_
  rw [ht]
  exact (advance_follows h).bind_ok fun _ h => .pure _ h

theorem textOperand_follows_none (hn : rest.head?.bind (operandText? ·.kind) = none) :
    Follows limit tokens enough (textOperand tokens) w depth (.ok (none, rest)) := by
  refine (peek_follows h).bind_ok fun _ h => ?_
  rw [hn]
  exact .pure none h

theorem tag_follows :
    Follows limit tokens enough (tag stop tokens) w depth (readTag stop rest) := by
  refine (found_follows h).bind_ok fun w h => ?_
  cases rest with
  | nil => exact (textOperand_follows_none h rfl).bind_ok fun _ h => fail_follows h _
  | cons t more =>
    rw [readTag]
    cases ht : operandText? t.kind with
    | none => exact (textOperand_follows_none h ht).bind_ok fun _ h => fail_follows h _
    | some text =>
      refine (textOperand_follows_some h ht).bind_ok fun _ h => ?_
      dsimp only
      split
      case isTrue => exact .throw _
      case isFalse => exact .pure _ h

theorem operator_follows (tag : String) :
    Follows limit tokens enough (operator stop tokens tag) w depth
      (readOperator stop tag rest) := by
  refine (peek_follows h).bind_ok fun w h => ?_
  cases rest with
  | nil => exact fail_follows h _
  | cons t more =>
    rw [readOperator, List.head?_cons]
    dsimp only
    cases t.kind with
    | word word => exact .throw _
    | keyword keyword =>
      cases keyword with
      | comparison operator => exact (advance_follows h).bind_ok fun _ h => .pure _ h
      | _ => exact fail_follows h _
    | _ => exact fail_follows h _

theorem value_follows (operator : ComparisonOperator) :
    Follows limit tokens enough (value stop tokens operator) w depth
      (readValue stop operator rest) := by
  unfold value readValue
  split
  case isTrue => exact .pure none h
  case isFalse =>
    cases rest with
    | nil => exact (textOperand_follows_none h rfl).bind_ok fun _ h => fail_follows h _
    | cons t more =>
      dsimp only
      cases ht : operandText? t.kind with
      | none => exact (textOperand_follows_none h ht).bind_ok fun _ h => fail_follows h _
      | some text => exact (textOperand_follows_some h ht).bind_ok fun _ h => .pure _ h

theorem comparison_follows :
    Follows limit tokens enough (comparison stop tokens >>= fun c => pure (.comparison c, 1)) w
      depth ((readComparison stop rest).map Reading.outcome) := by
  have hentity : Follows limit tokens enough _ w depth (readEntity rest) := entityOrigin_follows h
  unfold readComparison
  simp only [comparison, bind_assoc, pure_bind]
  split
  case h_1 e he =>
    rw [he] at hentity
    exact hentity.bind_error
  case h_2 entity afterEntity he =>
    rw [he] at hentity
    refine hentity.bind_ok fun _ h => ?_
    have htag : Follows limit tokens enough _ _ depth (readTag stop afterEntity) := tag_follows h
    split
    case h_1 e ht =>
      rw [ht] at htag
      exact htag.bind_error
    case h_2 tag afterTag ht =>
      rw [ht] at htag
      refine htag.bind_ok fun _ h => ?_
      have hoperator : Follows limit tokens enough _ _ depth (readOperator stop tag afterTag) :=
        operator_follows h tag
      split
      case h_1 e ho =>
        rw [ho] at hoperator
        exact hoperator.bind_error
      case h_2 operator afterOperator ho =>
        rw [ho] at hoperator
        refine hoperator.bind_ok fun _ h => ?_
        have hvalue :
            Follows limit tokens enough _ _ depth (readValue stop operator afterOperator) :=
          value_follows h operator
        split
        case h_1 e hv =>
          rw [hv] at hvalue
          exact hvalue.bind_error
        case h_2 value rest hv =>
          rw [hv] at hvalue
          exact hvalue.bind_ok fun _ h => .pure _ h

theorem closing_follows {ts : List Token} {inner : Reading ts} (hr : inner.rest = rest) :
    Follows limit tokens enough (do
        if ← peekIs tokens .closeParenthesis then
          advance tokens
          return (inner.expression, inner.height)
        else fail stop tokens .unclosedParenthesis) w depth
      ((closeParenthesis stop inner).map Reading.outcome) := by
  have hpeek : Follows limit tokens enough _ w depth _ := peekIs_follows h .closeParenthesis
  subst hr
  unfold closeParenthesis
  split
  case h_1 hrest =>
    rw [hrest] at hpeek
    exact hpeek.bind_ok fun _ h => fail_follows h _
  case h_2 t rest hrest =>
    rw [hrest, List.head?_cons, Option.any_some] at hpeek
    split
    case isTrue hk =>
      rw [decide_eq_true hk] at hpeek
      refine hpeek.bind_ok fun _ h => ?_
      exact (advance_follows h).bind_ok fun _ h => .pure _ h
    case isFalse hk =>
      rw [decide_eq_false hk] at hpeek
      exact hpeek.bind_ok fun _ h => fail_follows h _

end Pieces

end Descent

end Monitoring.Expression
