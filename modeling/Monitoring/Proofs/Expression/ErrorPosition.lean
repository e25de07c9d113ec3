import Monitoring.Proofs.Expression.Blame
import Monitoring.Proofs.Expression.Partition

namespace Monitoring.Expression

variable {stop : Nat} {p : Progress} {e : ParseError}

section Continuations

variable {ks ls : List TokenKind}

theorem derivable_iff_run : Derivable ks ↔ Progress.start.run ks = some .finished := by
  constructor
  · rintro ⟨n, e, h⟩
    exact Progress.run_of_derives h 0
  · intro h
    let ts := ks.map fun k => (⟨k, "", 0⟩ : Token)
    have hk : ts.map Token.kind = ks := by simp [ts, Function.comp_def]
    have hne : ts ≠ [] := by
      intro hts
      rw [← hk, hts] at h
      cases h
    have hl : 0 < ts.length := List.length_pos_iff.mpr hne
    cases hr : ofTokens ts.length 0 ts with
    | ok e =>
      obtain ⟨⟨n, -, hd⟩, -⟩ := derives_of_ofTokens hl hr
      exact ⟨n, e, hk ▸ hd⟩
    | error e =>
      exfalso
      rcases reports_of_ofTokens hl hne hr with ⟨-, hdeep⟩ | hreports
      · omega
      · exact hreports.run_ne_finished (hk.symm ▸ h)

theorem viable_of_run (h : Progress.start.run ks = some p) : Viable ks := by
  refine ⟨p.completion, derivable_iff_run.mpr ?_⟩
  rw [Progress.run_append_of_run h, p.run_completion]

theorem not_viable_of_run (h : Progress.start.run ks = none) : ¬Viable ks := by
  rintro ⟨more, hd⟩
  cases (Progress.run_append_of_run_eq_none h).symm.trans (derivable_iff_run.mp hd)

end Continuations

/-- The place that the error points at divides the tokens into those in front of it and those from
there on: it is the first of these, or the end of the text if there are none. -/
inductive Offends (stop : Nat) (before : List Token) : List Token → ParseError → Prop
  | ended {kind : ParseErrorKind} (other : kind.isUnknownEntityOrigin = false)
      (incomplete : ¬Derivable (before.map Token.kind)) : Offends stop before [] ⟨kind, stop⟩
  | token {kind : ParseErrorKind} {t : Token} {after : List Token}
      (other : kind.isUnknownEntityOrigin = false)
      (hopeless : ¬Viable ((before ++ [t]).map Token.kind)) :
      Offends stop before (t :: after) ⟨kind, t.offset⟩
  | origin {word : String} {t colon : Token} {after : List Token} (sign : colon.kind = .colon)
      (hopeless : ¬Viable ((before ++ [t, colon]).map Token.kind)) :
      Offends stop before (t :: colon :: after) ⟨.unknownEntityOrigin word, t.offset⟩

theorem Offends.position_eq {before after : List Token} (h : Offends stop before after e) :
    e.position = (foundIn stop after).2 := by
  cases h <;> rfl

theorem Blames.offends {before after : List Token}
    (hp : Progress.start.run (before.map Token.kind) = some p) (h : Blames stop p after e) :
    Offends stop before after e := by
  cases h with
  | front other stuck =>
    cases after with
    | nil =>
      refine .ended other fun hd => stuck ?_
      exact Option.some.inj (hp.symm.trans (derivable_iff_run.mp hd))
    | cons t after =>
      refine .token other (not_viable_of_run ?_)
      rw [List.map_append, Progress.run_append_of_run hp]
      exact Progress.run_singleton.trans stuck
  | origin sign stuck =>
    refine .origin sign (not_viable_of_run ?_)
    rw [List.map_append, Progress.run_append_of_run hp, List.map_cons, List.map_cons, sign]
    exact stuck

/-- Unless a limit was in the way, an error points at the first token that no expression goes on
with: the tokens in front of it can be continued to an expression, and with it they cannot. Where
the tokens run out it points at the end of the text, and they are no expression yet. An unknown
entity counts together with the colon behind it. -/
theorem parse_error_offends {text : String} {ts : List Token} {e : ParseError}
    (ht : Token.tokenize text = .ok ts) (hne : ts ≠ []) (h : parse text = .error e)
    (hk : e.kind ≠ .nestingTooDeep) :
    ∃ before after, ts = before ++ after ∧ (∀ t ∈ before, t.offset < e.position) ∧
      (∀ t ∈ after, e.position ≤ t.offset) ∧ Viable (before.map Token.kind) ∧
      Offends text.utf8ByteSize before after e := by
  rw [parse, ht, Result.ok_bind] at h
  obtain ⟨hdeep, -⟩ | ⟨before, after, p, rfl, hp, hb⟩ := reports_of_ofTokens (by decide) hne h
  · exact absurd hdeep hk
  have hoffends := hb.offends hp
  obtain ⟨-, hbetween⟩ := List.pairwise_append.mp (Token.pairwise_of_tokenize ht)
  have hlast := Token.offset_lt_of_tokenize ht
  refine ⟨before, after, rfl, ?_, ?_, viable_of_run hp, hoffends⟩
  · rw [hoffends.position_eq]
    cases after with
    | nil => exact fun t hbefore => hlast t (List.mem_append_left [] hbefore)
    | cons first rest => exact fun t hbefore => hbetween.2 t hbefore first List.mem_cons_self
  · rw [hoffends.position_eq]
    cases after with
    | nil => exact List.forall_mem_nil _
    | cons first rest =>
      have hrest := (List.pairwise_cons.mp hbetween.1).1
      exact List.forall_mem_cons.mpr ⟨Nat.le_refl _, fun t ht => (hrest t ht).le⟩

def fooTokens : List Token :=
  [⟨.keyword .negation, "NOT", 0⟩, ⟨.openParenthesis, "(", 4⟩, ⟨.word "foo", "foo", 5⟩,
   ⟨.colon, ":", 9⟩, ⟨.word "bar", "bar", 11⟩]

def zoneEqualsTokens : List Token :=
  [⟨.word "zone", "zone", 0⟩, ⟨.keyword (.comparison .equals), "EQUALS", 5⟩]

theorem parse_error_offends_foo :
    Token.tokenize "NOT (foo : bar" = .ok fooTokens ∧
    parse "NOT (foo : bar" = .error ⟨.unknownEntityOrigin "foo", 5⟩ ∧
    (∃ before after, fooTokens = before ++ after ∧ (∀ t ∈ before, t.offset < 5) ∧
      (∀ t ∈ after, 5 ≤ t.offset) ∧ Viable (before.map Token.kind) ∧
      Offends "NOT (foo : bar".utf8ByteSize before after ⟨.unknownEntityOrigin "foo", 5⟩) ∧
    Token.tokenize "zone EQUALS" = .ok zoneEqualsTokens ∧
    parse "zone EQUALS" = .error ⟨.missingValue .equals .endOfInput, 11⟩ ∧
    ∃ before after, zoneEqualsTokens = before ++ after ∧ (∀ t ∈ before, t.offset < 11) ∧
      (∀ t ∈ after, 11 ≤ t.offset) ∧ Viable (before.map Token.kind) ∧
      Offends "zone EQUALS".utf8ByteSize before after ⟨.missingValue .equals .endOfInput, 11⟩ := by
  have hfoo : Token.tokenize "NOT (foo : bar" = .ok fooTokens := by decide +kernel
  have hzone : Token.tokenize "zone EQUALS" = .ok zoneEqualsTokens := by decide +kernel
  have hfooError : parse "NOT (foo : bar" = .error ⟨.unknownEntityOrigin "foo", 5⟩ := by
    rw [parse, hfoo]
    decide +kernel
  have hzoneError : parse "zone EQUALS" = .error ⟨.missingValue .equals .endOfInput, 11⟩ := by
    rw [parse, hzone]
    decide +kernel
  exact ⟨hfoo, hfooError, parse_error_offends hfoo (by decide) hfooError (by decide), hzone,
    hzoneError, parse_error_offends hzone (by decide) hzoneError (by decide)⟩

end Monitoring.Expression
