import Monitoring.Proofs.Json.Scalars

namespace Monitoring.Json

mutual

def depth : Json → Nat
  | array items => depthOfItems items + 1
  | object fields => depthOfFields fields + 1
  | _ => 0

def depthOfItems : List Json → Nat
  | [] => 0
  | item :: rest => max item.depth (depthOfItems rest)

def depthOfFields : List (String × Json) → Nat
  | [] => 0
  | (_, value) :: rest => max value.depth (depthOfFields rest)

end

mutual

/-- Each number is one that the reader yields: an integer is in range, and a decimal is the text of
one that is neither an integer in range nor too large. -/
def Legible : Json → Prop
  | integer i => IsInteger64 i
  | decimal literal => ∃ p : NumberParts, p.Proper ∧ p.value? = some (.decimal literal)
  | array items => LegibleItems items
  | object fields => LegibleFields fields
  | _ => True

def LegibleItems : List Json → Prop
  | [] => True
  | item :: rest => item.Legible ∧ LegibleItems rest

def LegibleFields : List (String × Json) → Prop
  | [] => True
  | (_, value) :: rest => value.Legible ∧ LegibleFields rest

end

section Readers

variable {α β : Type} {room : Nat} {element : Reader α} {cs more after rest : List Char}
variable {c close : Char} {x : α}

theorem skipSpace_append {blank : List Char} (hb : ∀ c ∈ blank, isSpace c = true) :
    skipSpace (blank ++ cs) = skipSpace cs :=
  List.dropWhile_append_of_pos hb

theorem skipSpace_cons (h : isSpace c = false) : skipSpace (c :: cs) = c :: cs := by
  simp [skipSpace, h]

theorem outcome_eq_map {reader : Reader β} (f : α → β) (h : more.length ≤ cs.length)
    (hr : reader cs = (element more).map (Taken.map f h)) :
    outcome reader cs = (outcome element more).map fun t => (f t.1, t.2) := by
  rw [outcome, outcome, hr]
  cases element more <;> rfl

theorem takeElements_eq_none (h : outcome element cs = none) :
    outcome (takeElements close element) cs = none := by
  unfold outcome takeElements
  split
  case h_1 => rfl
  case h_2 hs => simp [outcome, hs] at h

theorem takeElements_close (h : outcome element cs = some (x, after))
    (hs : skipSpace after = close :: rest) (hc : close ≠ ',') :
    outcome (takeElements close element) cs = some ([x], rest) := by
  unfold outcome takeElements
  split
  case h_1 hn => simp [outcome, hn] at h
  case h_2 first hfirst =>
    simp only [outcome, hfirst, Option.map_some, Option.some.injEq, Prod.mk.injEq] at h
    obtain ⟨rfl, rfl⟩ := h
    split
    case h_1 hn => cases hs.symm.trans hn
    case h_2 hn =>
      cases hs.symm.trans hn
      rw [if_neg hc, if_pos rfl]
      rfl

theorem takeElements_comma (h : outcome element cs = some (x, after))
    (hs : skipSpace after = ',' :: more) :
    outcome (takeElements close element) cs =
      (outcome (takeElements close element) more).map fun t => (x :: t.1, t.2) := by
  rw [outcome, takeElements]
  split
  case h_1 hn => simp [outcome, hn] at h
  case h_2 first hfirst =>
    simp only [outcome, hfirst, Option.map_some, Option.some.injEq, Prod.mk.injEq] at h
    obtain ⟨rfl, rfl⟩ := h
    split
    case h_1 hn => cases hs.symm.trans hn
    case h_2 hn =>
      cases hs.symm.trans hn
      rw [if_pos rfl, outcome]
      cases takeElements close element more <;> rfl

theorem takeEnclosed_close (hs : skipSpace cs = close :: rest) :
    outcome (takeEnclosed close element) cs = some ([], rest) := by
  unfold outcome takeEnclosed
  split
  case h_1 hn => cases hs.symm.trans hn
  case h_2 hn =>
    cases hs.symm.trans hn
    rw [if_pos rfl]
    rfl

theorem takeEnclosed_elements (hs : skipSpace cs = c :: more) (hc : c ≠ close) :
    outcome (takeEnclosed close element) cs = outcome (takeElements close element) cs := by
  unfold outcome takeEnclosed
  split
  case h_1 hn => cases hs.symm.trans hn
  case h_2 hn =>
    cases hs.symm.trans hn
    rw [if_neg hc]

theorem takeField_eq {value : Reader Json} {text key : List Char} (hq : skipSpace cs = '"' :: text)
    (hk : outcome takeString text = some (key, after)) (hc : skipSpace after = ':' :: more) :
    outcome (takeField value) cs =
      (outcome value more).map fun t => ((String.ofList key, t.1), t.2) := by
  unfold outcome takeField
  split
  case h_2 hn => exact absurd hq (hn _)
  case h_1 hs =>
    cases hq.symm.trans hs
    split
    case h_1 hn => simp [outcome, hn] at hk
    case h_2 taken htaken =>
      simp only [outcome, htaken, Option.map_some, Option.some.injEq, Prod.mk.injEq] at hk
      obtain ⟨rfl, rfl⟩ := hk
      split
      case h_2 hn => exact absurd hc (hn _)
      case h_1 hs =>
        cases hc.symm.trans hs
        cases value more <;> rfl

theorem takeValue_bracket (h : skipSpace cs = '[' :: more) :
    outcome (takeValue (room + 1)) cs =
      (outcome (takeEnclosed ']' (takeValue room)) more).map fun t => (.array t.1, t.2) := by
  refine outcome_eq_map array (Nat.le_of_lt (length_lt_of_skipSpace h)) ?_
  unfold takeValue
  split
  case h_1 hs => cases h.symm.trans hs; rfl
  case h_2 hs => cases h.symm.trans hs
  case h_3 hn _ => exact absurd h (hn _)

theorem takeValue_brace (h : skipSpace cs = '\x7b' :: more) :
    outcome (takeValue (room + 1)) cs =
      (outcome (takeEnclosed '\x7d' (takeField (takeValue room))) more).map
        fun t => (.object t.1, t.2) := by
  refine outcome_eq_map object (Nat.le_of_lt (length_lt_of_skipSpace h)) ?_
  unfold takeValue
  split
  case h_1 hs => cases h.symm.trans hs
  case h_2 hs => cases h.symm.trans hs; rfl
  case h_3 _ hn => exact absurd h (hn _)

theorem takeValue_zero (h : skipSpace cs = c :: more) (hc : c = '[' ∨ c = '\x7b') :
    outcome (takeValue 0) cs = none := by
  unfold outcome takeValue
  split
  case h_1 => rfl
  case h_2 => rfl
  case h_3 ha ho =>
    rcases hc with rfl | rfl
    · exact absurd h (ha _)
    · exact absurd h (ho _)

theorem takeValue_scalar (h : skipSpace cs = c :: more) (hc : c ≠ '[' ∧ c ≠ '\x7b') :
    outcome (takeValue room) cs = outcome takeScalar (c :: more) := by
  unfold outcome takeValue
  split
  case h_1 hs =>
    cases h.symm.trans hs
    exact absurd rfl hc.1
  case h_2 hs =>
    cases h.symm.trans hs
    exact absurd rfl hc.2
  case h_3 =>
    rw [← h]
    cases takeScalar (skipSpace cs) <;> rfl

end Readers

def ReadsAs {α : Type} (element : Reader α) (text : List Char) (result : Option α) : Prop :=
  ∀ blank rest, (∀ c ∈ blank, isSpace c = true) → EndsNumber rest →
    outcome element (blank ++ (text ++ rest)) = result.map fun x => (x, rest)

def Starts (text : List Char) : Prop :=
  ∃ c more, text = c :: more ∧ isSpace c = false ∧ c ≠ ']' ∧ c ≠ '\x7d'

theorem endsNumber_of_isSpace {blank rest : List Char} (hb : ∀ c ∈ blank, isSpace c = true)
    (hr : EndsNumber rest) : EndsNumber (blank ++ rest) := by
  cases blank with
  | nil => exact hr
  | cons c more =>
    have hc := hb c List.mem_cons_self
    apply endsNumber_cons
    simp only [isSpace, Bool.or_eq_true, decide_eq_true_eq] at hc
    obtain ((rfl | rfl) | rfl) | rfl := hc <;> decide

section Elements

variable {α : Type} {element : Reader α} {textOf : α → List Char} {fits : α → Bool}
variable {y : Layout} {level : Nat} {close : Char} {xs : List α}

theorem readsAs_elements (hc : close = ']' ∨ close = '\x7d') (hne : xs ≠ [])
    (h : ∀ x ∈ xs, ReadsAs element (textOf x) (bif fits x then some x else none)) :
    ReadsAs (takeElements close element) (y.enclose level close (xs.map textOf))
      (bif xs.all fits then some xs else none) := by
  intro blank rest hb _
  induction xs generalizing blank with
  | nil => exact absurd rfl hne
  | cons x xs ih =>
    have hblank : ∀ c ∈ blank ++ y.lineBreak (level + 1), isSpace c = true := by
      intro c hm
      rcases List.mem_append.mp hm with hm | hm
      · exact hb c hm
      · exact y.isSpace_of_mem_lineBreak _ c hm
    have hx := fun after => h x List.mem_cons_self _ after hblank
    cases xs with
    | nil =>
      have hends : EndsNumber (y.lineBreak level ++ close :: rest) := by
        apply endsNumber_of_isSpace (y.isSpace_of_mem_lineBreak level)
        apply endsNumber_cons
        rcases hc with rfl | rfl <;> decide
      have hclose : skipSpace (y.lineBreak level ++ close :: rest) = close :: rest := by
        rw [skipSpace_append (y.isSpace_of_mem_lineBreak level), skipSpace_cons]
        rcases hc with rfl | rfl <;> decide
      specialize hx _ hends
      simp only [List.map_cons, List.map_nil, Layout.enclose, List.append_assoc,
        List.singleton_append, List.all_cons, List.all_nil, Bool.and_true] at hx ⊢
      rcases Bool.eq_false_or_eq_true (fits x) with hf | hf
      · simp only [hf, cond_true, Option.map_some] at hx ⊢
        exact takeElements_close hx hclose (by rcases hc with rfl | rfl <;> decide)
      · simp only [hf, cond_false, Option.map_none] at hx ⊢
        exact takeElements_eq_none hx
    | cons next xs =>
      have hrest := ih (by simp) (fun x hm => h x (List.mem_cons_of_mem _ hm)) [] (by simp)
      specialize hx (',' :: (y.enclose level close ((next :: xs).map textOf) ++ rest))
        (endsNumber_cons (by decide))
      simp only [List.map_cons, Layout.enclose, List.append_assoc, List.cons_append,
        List.nil_append, List.all_cons] at hx hrest ⊢
      rcases Bool.eq_false_or_eq_true (fits x) with hf | hf
      · simp only [hf, cond_true, Option.map_some, Bool.true_and] at hx ⊢
        rw [takeElements_comma hx (skipSpace_cons (by decide)), hrest]
        cases fits next && xs.all fits <;> rfl
      · simp only [hf, cond_false, Option.map_none, Bool.false_and] at hx ⊢
        exact takeElements_eq_none hx

theorem readsAs_enclosed (y : Layout) (level : Nat) (hc : close = ']' ∨ close = '\x7d')
    (hs : ∀ x ∈ xs, Starts (textOf x))
    (h : ∀ x ∈ xs, ReadsAs element (textOf x) (bif fits x then some x else none)) :
    ReadsAs (takeEnclosed close element) (y.enclose level close (xs.map textOf))
      (bif xs.all fits then some xs else none) := by
  intro blank rest hb hr
  cases xs with
  | nil =>
    apply takeEnclosed_close
    rw [skipSpace_append hb]
    apply skipSpace_cons
    rcases hc with rfl | rfl <;> decide
  | cons x xs =>
    obtain ⟨c, more, htext, hspace, hbracket, hbrace⟩ := hs x List.mem_cons_self
    have hstart : ∃ after,
        skipSpace (blank ++ (y.enclose level close ((x :: xs).map textOf) ++ rest)) =
          c :: after := by
      rw [skipSpace_append hb]
      cases xs with
      | nil =>
        simp only [List.map_cons, List.map_nil, Layout.enclose, List.append_assoc, htext]
        rw [skipSpace_append (y.isSpace_of_mem_lineBreak _)]
        exact ⟨_, skipSpace_cons hspace⟩
      | cons next xs =>
        simp only [List.map_cons, Layout.enclose, List.append_assoc, htext]
        rw [skipSpace_append (y.isSpace_of_mem_lineBreak _)]
        exact ⟨_, skipSpace_cons hspace⟩
    obtain ⟨after, hafter⟩ := hstart
    rw [takeEnclosed_elements hafter (by rcases hc with rfl | rfl <;> assumption)]
    exact readsAs_elements hc (by simp) h blank rest hb hr

end Elements

theorem readsAs_scalar {j : Json} {text : List Char} {room : Nat} (hs : Starts text)
    (hb : ∀ more, text ≠ '[' :: more ∧ text ≠ '\x7b' :: more)
    (h : ∀ rest, EndsNumber rest → outcome takeScalar (text ++ rest) = some (j, rest)) :
    ReadsAs (takeValue room) text (some j) := by
  intro blank rest hblank hr
  obtain ⟨c, more, rfl, hspace, _⟩ := hs
  have hskip : skipSpace (blank ++ (c :: more ++ rest)) = c :: (more ++ rest) := by
    rw [skipSpace_append hblank]
    exact skipSpace_cons hspace
  rw [takeValue_scalar hskip]
  · exact h rest hr
  · constructor
    · rintro rfl
      exact (hb more).1 rfl
    · rintro rfl
      exact (hb more).2 rfl

theorem readsAs_field {key : String} {j : Json} {value : Reader Json} {text : List Char}
    {y : Layout} {fits : Bool} (h : ReadsAs value text (bif fits then some j else none)) :
    ReadsAs (takeField value) (quoted key ++ ':' :: (y.gap ++ text))
      (bif fits then some (key, j) else none) := by
  intro blank rest hb hr
  have hquote : skipSpace (blank ++ (quoted key ++ ':' :: (y.gap ++ text) ++ rest)) =
      '"' :: (key.toList.flatMap charText ++ '"' :: (':' :: (y.gap ++ (text ++ rest)))) := by
    rw [skipSpace_append hb]
    simp only [quoted, List.cons_append, List.append_assoc, List.nil_append]
    exact skipSpace_cons (by decide)
  rw [takeField_eq hquote (takeString_quoted _ _) (skipSpace_cons (by decide)),
    h y.gap rest y.isSpace_of_mem_gap hr, String.ofList_toList]
  cases fits <;> rfl

theorem ne_of_numberHead {c d : Char} (hc : c.isDigit = true ∨ c = '-')
    (hd : d.isDigit = false ∧ d ≠ '-') : c ≠ d := by
  rintro rfl
  simp_all

theorem NumberParts.Proper.starts {p : NumberParts} (h : p.Proper) :
    Starts p.text ∧ ∀ more, p.text ≠ '[' :: more ∧ p.text ≠ '\x7b' :: more := by
  obtain ⟨c, cs, hc, hhead⟩ := h.text_eq_cons
  have ne (d : Char) (hd : d.isDigit = false ∧ d ≠ '-') : c ≠ d := ne_of_numberHead hhead hd
  constructor
  · refine ⟨c, cs, hc, ?_, ne _ (by decide), ne _ (by decide)⟩
    simp [isSpace, ne ' ' (by decide), ne '\n' (by decide), ne '\r' (by decide),
      ne '\t' (by decide)]
  · intro more
    rw [hc]
    constructor
    · rintro ⟨⟩
      exact ne '[' (by decide) rfl
    · rintro ⟨⟩
      exact ne '\x7b' (by decide) rfl

theorem exists_parts {j : Json} (hj : j.Legible)
    (hn : (∃ i, j = .integer i) ∨ ∃ literal, j = .decimal literal) :
    ∃ p : NumberParts, p.Proper ∧ p.value? = some j ∧ ∀ y level, j.chars y level = p.text := by
  rcases hn with ⟨i, rfl⟩ | ⟨literal, rfl⟩
  · exact ⟨integerParts i, proper_integerParts i, value?_integerParts hj,
      fun _ _ => (text_integerParts i).symm⟩
  · obtain ⟨p, hp, hv⟩ := hj
    exact ⟨p, hp, hv, fun _ _ => (NumberParts.text_of_value?_decimal hv).symm⟩

theorem starts_chars {j : Json} (hj : j.Legible) (y : Layout) (level : Nat) :
    Starts (j.chars y level) := by
  have number (hn : (∃ i, j = .integer i) ∨ ∃ literal, j = .decimal literal) :
      Starts (j.chars y level) := by
    obtain ⟨p, hp, -, htext⟩ := exists_parts hj hn
    rw [htext]
    exact hp.starts.1
  cases j with
  | null => exact ⟨'n', _, rfl, by decide⟩
  | boolean b => cases b <;> exact ⟨_, _, rfl, by decide⟩
  | integer i => exact number (.inl ⟨i, rfl⟩)
  | decimal literal => exact number (.inr ⟨literal, rfl⟩)
  | string s => exact ⟨'"', _, rfl, by decide⟩
  | array items => exact ⟨'[', _, rfl, by decide⟩
  | object fields => exact ⟨'\x7b', _, rfl, by decide⟩

theorem itemsChars_eq_map (y : Layout) (level : Nat) (items : List Json) :
    itemsChars y level items = items.map (chars y level) := by
  induction items with
  | nil => rfl
  | cons item rest ih => rw [itemsChars, ih, List.map_cons]

def fieldChars (y : Layout) (level : Nat) (field : String × Json) : List Char :=
  quoted field.1 ++ ':' :: (y.gap ++ field.2.chars y level)

theorem fieldsChars_eq_map (y : Layout) (level : Nat) (fields : List (String × Json)) :
    fieldsChars y level fields = fields.map (fieldChars y level) := by
  induction fields with
  | nil => rfl
  | cons field rest ih =>
    obtain ⟨key, value⟩ := field
    rw [fieldsChars, ih, List.map_cons]
    rfl

theorem all_depth_items (room : Nat) (items : List Json) :
    (items.all fun item => decide (item.depth ≤ room)) = decide (depthOfItems items ≤ room) := by
  induction items with
  | nil => simp [depthOfItems]
  | cons item rest ih =>
    rw [List.all_cons, ih, depthOfItems, ← Bool.decide_and]
    exact decide_eq_decide.mpr (Nat.max_le).symm

theorem all_depth_fields (room : Nat) (fields : List (String × Json)) :
    (fields.all fun field => decide (field.2.depth ≤ room)) =
      decide (depthOfFields fields ≤ room) := by
  induction fields with
  | nil => simp [depthOfFields]
  | cons field rest ih =>
    obtain ⟨key, value⟩ := field
    rw [List.all_cons, ih, depthOfFields, ← Bool.decide_and]
    exact decide_eq_decide.mpr (Nat.max_le).symm

theorem starts_items {items : List Json} (h : LegibleItems items) (y : Layout) (level : Nat) :
    ∀ item ∈ items, Starts (item.chars y level) := by
  induction items with
  | nil => nofun
  | cons item rest ih =>
    intro x hx
    rcases List.mem_cons.mp hx with rfl | hx
    · exact starts_chars h.1 y level
    · exact ih h.2 x hx

def ReadsBack (j : Json) : Prop :=
  ∀ (y : Layout) (level room : Nat),
    ReadsAs (takeValue room) (j.chars y level) (bif decide (j.depth ≤ room) then some j else none)

theorem ReadsBack.scalar {j : Json} (hj : j.Legible) (hd : j.depth = 0)
    (hb : ∀ y level more, j.chars y level ≠ '[' :: more ∧ j.chars y level ≠ '\x7b' :: more)
    (h : ∀ y level rest, EndsNumber rest →
      outcome takeScalar (j.chars y level ++ rest) = some (j, rest)) : j.ReadsBack := by
  intro y level room
  rw [hd, decide_eq_true (Nat.zero_le room)]
  exact readsAs_scalar (starts_chars hj y level) (hb y level) (h y level)

theorem ReadsBack.number {j : Json} (hj : j.Legible)
    (hn : (∃ i, j = .integer i) ∨ ∃ literal, j = .decimal literal) : j.ReadsBack := by
  obtain ⟨p, hp, hv, htext⟩ := exists_parts hj hn
  refine .scalar hj ?_ (fun y level more => ?_) fun y level rest hr => ?_
  · rcases hn with ⟨i, rfl⟩ | ⟨literal, rfl⟩ <;> rfl
  · rw [htext]
    exact hp.starts.2 more
  · rw [htext]
    exact takeScalar_text hp hv hr

theorem ReadsBack.array {items : List Json} (hi : LegibleItems items)
    (h : ∀ item ∈ items, item.ReadsBack) : (array items).ReadsBack := by
  intro y level room blank rest hb hr
  have hskip : skipSpace (blank ++ ((Json.array items).chars y level ++ rest)) =
      '[' :: (y.enclose level ']' (items.map (chars y (level + 1))) ++ rest) := by
    rw [skipSpace_append hb, chars, itemsChars_eq_map]
    exact skipSpace_cons (by decide)
  cases room with
  | zero => exact takeValue_zero hskip (.inl rfl)
  | succ room =>
    have hitems := readsAs_enclosed y level (.inl rfl)
      (starts_items hi y (level + 1)) (fun item hm => h item hm y (level + 1) room) [] rest
      nofun hr
    rw [List.nil_append, all_depth_items] at hitems
    rw [takeValue_bracket hskip, hitems, depth]
    simp only [Nat.add_le_add_iff_right]
    cases decide (depthOfItems items ≤ room) <;> rfl

theorem ReadsBack.object {fields : List (String × Json)}
    (h : ∀ field ∈ fields, field.2.ReadsBack) : (object fields).ReadsBack := by
  intro y level room blank rest hb hr
  have hskip : skipSpace (blank ++ ((Json.object fields).chars y level ++ rest)) =
      '\x7b' :: (y.enclose level '\x7d' (fields.map (fieldChars y (level + 1))) ++ rest) := by
    rw [skipSpace_append hb, chars, fieldsChars_eq_map]
    exact skipSpace_cons (by decide)
  cases room with
  | zero => exact takeValue_zero hskip (.inr rfl)
  | succ room =>
    have hstarts : ∀ field ∈ fields, Starts (fieldChars y (level + 1) field) :=
      fun field _ => ⟨'"', _, rfl, by decide⟩
    have hfields := readsAs_enclosed y level (.inr rfl) hstarts
      (fun field hm => readsAs_field (h field hm y (level + 1) room)) [] rest nofun hr
    rw [List.nil_append, all_depth_fields] at hfields
    rw [takeValue_brace hskip, hfields, depth]
    simp only [Nat.add_le_add_iff_right]
    cases decide (depthOfFields fields ≤ room) <;> rfl

mutual

theorem readsBack : (j : Json) → j.Legible → j.ReadsBack
  | null, h => .scalar h rfl (by simp [chars]) fun _ _ _ _ => rfl
  | boolean true, h => .scalar h rfl (by simp [chars]) fun _ _ _ _ => rfl
  | boolean false, h => .scalar h rfl (by simp [chars]) fun _ _ _ _ => rfl
  | integer i, h => .number h (.inl ⟨i, rfl⟩)
  | decimal literal, h => .number h (.inr ⟨literal, rfl⟩)
  | string s, h =>
    .scalar h rfl (by simp [chars, quoted]) fun _ _ rest _ => takeScalar_quoted s rest
  | array items, h => .array h (readsBack_items items h)
  | object fields, h => .object (readsBack_fields fields h)

theorem readsBack_items : (items : List Json) → LegibleItems items →
    ∀ item ∈ items, item.ReadsBack
  | [], _ => nofun
  | item :: rest, h => List.forall_mem_cons.mpr ⟨readsBack item h.1, readsBack_items rest h.2⟩

theorem readsBack_fields : (fields : List (String × Json)) → LegibleFields fields →
    ∀ field ∈ fields, field.2.ReadsBack
  | [], _ => nofun
  | (_, value) :: rest, h =>
    List.forall_mem_cons.mpr ⟨readsBack value h.1, readsBack_fields rest h.2⟩

end

theorem parse_text_append {j : Json} (h : j.Legible) (y : Layout) (tail : String)
    (ht : ∀ c ∈ tail.toList, isSpace c = true) :
    parse (j.text y ++ tail) = if j.depth ≤ maxNesting then some j else none := by
  have hends : EndsNumber tail.toList := by
    rw [← List.append_nil tail.toList]
    exact endsNumber_of_isSpace ht endsNumber_nil
  have hread := readsBack j h y 0 maxNesting [] tail.toList nofun hends
  have hskip : skipSpace tail.toList = [] := by
    rw [← List.append_nil tail.toList, skipSpace_append ht]
    rfl
  rw [parse, text, String.toList_append, String.toList_ofList, parseChars]
  rw [List.nil_append, outcome] at hread
  by_cases hd : j.depth ≤ maxNesting
  · rw [if_pos hd]
    simp only [hd, decide_true, cond_true, Option.map_some, Option.map_eq_some_iff,
      Prod.mk.injEq] at hread
    obtain ⟨t, ht, hvalue, hrest⟩ := hread
    rw [ht]
    simp only [hvalue, hrest, hskip, List.isEmpty_nil, if_true]
  · rw [if_neg hd]
    simp only [hd, decide_false, cond_false, Option.map_none, Option.map_eq_none_iff] at hread
    rw [hread]

theorem parse_text {j : Json} (h : j.Legible) (y : Layout) :
    parse (j.text y) = if j.depth ≤ maxNesting then some j else none := by
  have hp := parse_text_append h y "" nofun
  rwa [String.append_empty] at hp

end Monitoring.Json
