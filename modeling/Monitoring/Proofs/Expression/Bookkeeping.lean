import Monitoring.Proofs.Expression.Agreement
import Monitoring.Proofs.Expression.Parentheses

namespace Monitoring.Expression

structure Balanced (ks : List TokenKind) : Prop where
  closed : ks.count .closeParenthesis = ks.count .openParenthesis
  opened : ∀ front back, ks = front ++ back →
    front.count .closeParenthesis ≤ front.count .openParenthesis

namespace Balanced

variable {ks ls : List TokenKind}

theorem of_no_parenthesis (h : ∀ k ∈ ks, k.isParenthesis = false) : Balanced ks := by
  have hopen : ks.count .openParenthesis = 0 := List.count_eq_zero.mpr fun hk => nomatch h _ hk
  have hclose : ks.count .closeParenthesis = 0 := List.count_eq_zero.mpr fun hk => nomatch h _ hk
  refine ⟨hclose.trans hopen.symm, ?_⟩
  rintro front back rfl
  rw [List.count_append] at hclose
  omega

theorem append (hk : Balanced ks) (hl : Balanced ls) : Balanced (ks ++ ls) := by
  refine ⟨by rw [List.count_append, List.count_append, hk.closed, hl.closed], ?_⟩
  intro front back h
  obtain ⟨middle, rfl, hls⟩ | ⟨middle, hks, -⟩ := List.append_eq_append_iff.mp h
  · have := hk.closed
    have := hl.opened middle back hls
    rw [List.count_append, List.count_append]
    omega
  · exact hk.opened front middle hks

theorem parenthesized (h : Balanced ks) :
    Balanced (.openParenthesis :: (ks ++ [.closeParenthesis])) := by
  have hclosed := h.closed
  refine ⟨by simp [hclosed], ?_⟩
  rintro (_ | ⟨k, front⟩) back hk
  · exact Nat.le_refl _
  · rw [List.cons_append, List.cons.injEq] at hk
    obtain ⟨rfl, hk⟩ := hk
    rw [List.count_cons_self, List.count_cons_of_ne (by decide)]
    obtain ⟨middle, rfl, hlast⟩ | ⟨middle, hks, -⟩ := List.append_eq_append_iff.mp hk
    · have hsublist : middle.Sublist [.closeParenthesis] :=
        hlast ▸ List.sublist_append_left middle back
      have hmiddle : middle.count .closeParenthesis ≤ 1 := hsublist.count_le .closeParenthesis
      rw [List.count_append, List.count_append]
      omega
    · exact Nat.le_succ_of_le (h.opened front middle hks)

end Balanced

theorem ComparisonText.balanced {ks : List TokenKind} {c : Comparison} (h : ComparisonText ks c) :
    Balanced ks := by
  have hfree := List.filter_eq_self.mp (withoutParentheses_of_respelled h.respelled).1
  exact .of_no_parenthesis fun k hk => by simpa using hfree k hk

theorem Derives.balanced {tier : Tier} {n : Nat} {ks : List TokenKind} {e : Expression}
    (h : Derives tier n ks e) : Balanced ks := by
  have hkeyword (keyword : Keyword) : Balanced [.keyword keyword] :=
    .of_no_parenthesis (List.forall_mem_singleton.mpr rfl)
  induction h with
  | operand _ ih => exact ih
  | join _ _ ihl ihr => exact ihl.append ((hkeyword _).append ihr)
  | negation _ ih => exact (hkeyword _).append ih
  | primary _ ih => exact ih
  | parenthesized _ ih => exact ih.parenthesized
  | comparison h => exact h.balanced

namespace Descent

open ParseErrorKind (maxNesting)

variable {limit stop room : Nat} {tokens : List Token} {tier : Tier}

theorem exists_derived_of_readTier {ts : List Token} {r : Reading ts} (hl : 0 < limit)
    (h : readTier limit stop room tier ts = .ok r) : ∃ tier', r.Derived limit room tier' := by
  have hunary : Reader.Sound limit room .unary (readUnary limit stop room) := readUnary_sound hl
  cases tier with
  | chain op =>
    cases op with
    | disjunction => exact ⟨.chain .disjunction, readLogical_sound hunary h⟩
    | conjunction => exact ⟨.chain .conjunction, readChain_sound hunary h⟩
  | unary => exact ⟨_, hunary h⟩
  | primary =>
    rw [readTier, readPrimary] at h
    split at h
    case isTrue => exact ⟨.unary, readComparison_sound hl h⟩
    case isFalse => exact ⟨_, hunary h⟩

structure Exact (limit : Nat) (tokens : List Token) (start finish : Cursor)
    (parsed : Expression × Nat) : Prop where
  advanced : start.position < finish.position
  inside : finish.position ≤ tokens.length
  depth_eq : finish.depth = start.depth
  height_eq : parsed.2 = parsed.1.height
  height_le : parsed.2 ≤ limit
  balanced : Balanced ((tokens.extract start.position finish.position).map Token.kind)

theorem exact_of_derived {start : Cursor} {r : Reading (tokens.drop start.position)}
    {w : Walk} (h : r.Derived limit room tier) (harrived : w.At tokens start.depth r.rest)
    (hp : w.here.position ≤ max start.position tokens.length) :
    Exact limit tokens start w.here (r.expression, r.height) := by
  obtain ⟨⟨n, taken, hn, htaken, hderives⟩, hheight, hle⟩ := h
  have hr := harrived.drop_eq
  have hshorter := r.shorter
  rw [← hr, List.length_drop, List.length_drop] at hshorter
  have hextract : tokens.extract start.position w.here.position = taken := by
    have hlength := congrArg List.length htaken
    rw [← hr, List.length_append, List.length_drop, List.length_drop] at hlength
    rw [List.extract_eq_take_drop, htaken]
    exact List.take_left' (by omega)
  refine ⟨by omega, by omega, harrived.depth_eq, hheight, hle, ?_⟩
  rw [hextract]
  exact hderives.balanced

/-- From any place that is not too deep, the descent into any tier comes to an end, with what the
reader of that tier gives. On the way it is never more than one level too deep, and if it gives an
expression, what it has taken is exact. -/
theorem bookkeeping_is_exact (stop : Nat) (tokens : List Token) (tier : Tier) (start : Cursor)
    (hstart : start.depth ≤ maxNesting) :
    (∃ result w, Runs (parse maxNesting stop tokens · tier) ⟨start, []⟩ result w) ∧
      ∀ result w, Runs (parse maxNesting stop tokens · tier) ⟨start, []⟩ result w →
        w.Shallow maxNesting ∧
        (∀ parsed, result = .ok parsed → Exact maxNesting tokens start w.here parsed) ∧
        result = (readTier maxNesting stop (maxNesting - start.depth) tier
          (tokens.drop start.position)).map fun r => (r.expression, r.height) := by
  let needed := 4 * (tokens.drop start.position).length + rank tier
  have hfollows (calls : Nat) := (agrees_of_calls maxNesting stop tokens calls).tier tier
    (w := ⟨start, []⟩) ⟨rfl, rfl⟩ (Nat.add_sub_cancel' hstart) (fun he : needed < calls => he)
  constructor
  · obtain ⟨result, w, run⟩ := (hfollows (needed + 1)).exists_run (Nat.lt_succ_self needed)
    exact ⟨result, w, needed + 1, run⟩
  · rintro result w ⟨calls, run⟩
    obtain ⟨hresult, leads, hok⟩ := (hfollows calls).of_run run
    refine ⟨leads.shallow (List.forall_mem_singleton.mpr (Nat.le_succ_of_le hstart)), ?_, hresult⟩
    rintro parsed h
    obtain ⟨r, hread, rfl⟩ := Result.map_eq_ok_iff.mp (hresult.symm.trans h)
    obtain ⟨tier', hderived⟩ := exists_derived_of_readTier (by decide) hread
    exact exact_of_derived hderived (hok r hread) leads.position_le

theorem bookkeeping_is_exact_parenthesized :
    let tokens : List Token := [⟨.keyword .negation, "not", 0⟩, ⟨.openParenthesis, "(", 4⟩,
      ⟨.word "a", "a", 5⟩, ⟨.keyword (.comparison .isEmpty), "is_empty", 7⟩,
      ⟨.closeParenthesis, ")", 15⟩]
    let parsed := (Expression.comparison ⟨none, "a", .isEmpty, none⟩, 1)
    ∃ w, Runs (parse maxNesting 16 tokens · .primary) ⟨⟨1, 255⟩, []⟩ (.ok parsed) w ∧
      w.Shallow maxNesting ∧ Exact maxNesting tokens ⟨1, 255⟩ w.here parsed := by
  intro tokens parsed
  obtain ⟨⟨result, w, run⟩, hall⟩ := bookkeeping_is_exact 16 tokens .primary ⟨1, 255⟩ (by decide)
  obtain ⟨shallow, exact, hresult⟩ := hall result w run
  have hparsed : result = .ok parsed := hresult.trans (by decide +kernel)
  rw [hparsed] at run
  exact ⟨w, run, shallow, exact parsed hparsed⟩

end Descent

end Monitoring.Expression
