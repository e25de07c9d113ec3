import Monitoring.Json.Number

/-!
Reading JSON text, strictly: no comments, no trailing commas, no raw control characters in
strings, no half of a surrogate pair, no number beyond the doubles, and at most `maxNesting`
arrays and objects around a value.
-/

namespace Monitoring.Json

structure Taken (α : Type) (cs : List Char) where
  value : α
  rest : List Char
  shorter : rest.length < cs.length

def skipSpace (cs : List Char) : List Char := cs.dropWhile isSpace

theorem skipSpace_length (cs : List Char) : (skipSpace cs).length ≤ cs.length :=
  (List.dropWhile_sublist isSpace).length_le

theorem length_le_of_skipSpace {cs text : List Char} (h : skipSpace cs = text) :
    text.length ≤ cs.length := h ▸ skipSpace_length cs

theorem length_lt_of_skipSpace {c : Char} {cs more : List Char} (h : skipSpace cs = c :: more) :
    more.length < cs.length := length_le_of_skipSpace h

def takeCodeUnit (cs : List Char) : Option (Nat × List Char) := Text.takeHex 0 4 cs

def takePair (unit : Nat) (cs : List Char) : Option (Char × List Char) :=
  if 0xDC00 ≤ unit ∧ unit < 0xE000 then none
  else if 0xD800 ≤ unit ∧ unit < 0xDC00 then
    match cs with
    | '\\' :: 'u' :: more => do
      let (second, rest) ← takeCodeUnit more
      if 0xDC00 ≤ second ∧ second < 0xE000 then
        return (Char.ofNat (0x10000 + (unit - 0xD800) * 0x400 + (second - 0xDC00)), rest)
      else none
    | _ => none
  else some (Char.ofNat unit, cs)

def takeEscape : List Char → Option (Char × List Char)
  | '"' :: rest => some ('"', rest)
  | '\\' :: rest => some ('\\', rest)
  | '/' :: rest => some ('/', rest)
  | 'b' :: rest => some ('\x08', rest)
  | 'f' :: rest => some ('\x0c', rest)
  | 'n' :: rest => some ('\n', rest)
  | 'r' :: rest => some ('\r', rest)
  | 't' :: rest => some ('\t', rest)
  | 'u' :: rest => do
    let (unit, rest) ← takeCodeUnit rest
    takePair unit rest
  | _ => none

theorem takeCodeUnit_length {cs rest : List Char} {unit : Nat}
    (h : takeCodeUnit cs = some (unit, rest)) : rest.length ≤ cs.length := Text.takeHex_length h

theorem takePair_length {cs rest : List Char} {unit : Nat} {c : Char}
    (h : takePair unit cs = some (c, rest)) : rest.length ≤ cs.length := by
  unfold takePair at h
  split at h
  · simp at h
  · split at h
    · split at h
      · simp only [Option.bind_eq_bind, Option.bind_eq_some_iff, Prod.exists] at h
        obtain ⟨_, _, hu, h⟩ := h
        split at h
        · simp only [Option.pure_def, Option.some.injEq, Prod.mk.injEq] at h
          obtain ⟨_, rfl⟩ := h
          have := takeCodeUnit_length hu
          simp only [List.length_cons]; omega
        · simp at h
      · simp at h
    · simp only [Option.some.injEq, Prod.mk.injEq] at h
      simp [h.2]

theorem takeEscape_length {cs rest : List Char} {c : Char}
    (h : takeEscape cs = some (c, rest)) : rest.length < cs.length := by
  unfold takeEscape at h
  split at h
  case h_9 =>
    simp only [Option.bind_eq_bind, Option.bind_eq_some_iff, Prod.exists] at h
    obtain ⟨_, _, hu, h⟩ := h
    have := takeCodeUnit_length hu
    have := takePair_length h
    simp only [List.length_cons]; omega
  case h_10 => simp at h
  all_goals
    simp only [Option.some.injEq, Prod.mk.injEq] at h
    obtain ⟨_, rfl⟩ := h
    simp

def Taken.cons {cs rest : List Char} (c first : Char) (t : Taken (List Char) rest)
    (h : rest.length ≤ cs.length) : Taken (List Char) (c :: cs) :=
  ⟨first :: t.value, t.rest, Nat.lt_succ_of_lt (Nat.lt_of_lt_of_le t.shorter h)⟩

def takeString (cs : List Char) : Option (Taken (List Char) cs) :=
  match cs with
  | [] => none
  | c :: more =>
    if c = '"' then some ⟨[], more, Nat.lt_succ_self more.length⟩
    else if c = '\\' then
      match h : takeEscape more with
      | none => none
      | some (e, rest) => (takeString rest).map fun t => t.cons c e (Nat.le_of_lt (takeEscape_length h))
    else if c.toNat < 0x20 then none
    else (takeString more).map fun t => t.cons c c (Nat.le_refl more.length)
  termination_by cs.length
  decreasing_by
    · exact Nat.lt_succ_of_lt (takeEscape_length h)
    · exact Nat.lt_succ_self more.length

abbrev Reader (α : Type) := (cs : List Char) → Option (Taken α cs)

def takeElements {α : Type} (close : Char) (element : Reader α) (cs : List Char) :
    Option (Taken (List α) cs) :=
  match element cs with
  | none => none
  | some first =>
    match h : skipSpace first.rest with
    | [] => none
    | c :: more =>
      have hmore : more.length < cs.length := Nat.lt_trans (length_lt_of_skipSpace h) first.shorter
      if c = ',' then
        (takeElements close element more).map fun t =>
          ⟨first.value :: t.value, t.rest, Nat.lt_trans t.shorter hmore⟩
      else if c = close then some ⟨[first.value], more, hmore⟩
      else none
  termination_by cs.length

def takeEnclosed {α : Type} (close : Char) (element : Reader α) (cs : List Char) :
    Option (Taken (List α) cs) :=
  match h : skipSpace cs with
  | [] => none
  | c :: rest =>
    if c = close then
      some ⟨[], rest, length_lt_of_skipSpace h⟩
    else takeElements close element cs

def takeField (value : Reader Json) : Reader (String × Json) := fun cs =>
  match hq : skipSpace cs with
  | '"' :: text =>
    match takeString text with
    | none => none
    | some key =>
      match hc : skipSpace key.rest with
      | ':' :: more =>
        have htext : text.length < cs.length := length_lt_of_skipSpace hq
        have hmore : more.length < text.length :=
          Nat.lt_trans (length_lt_of_skipSpace hc) key.shorter
        (value more).map fun t =>
          ⟨(String.ofList key.value, t.value), t.rest,
            Nat.lt_trans t.shorter (Nat.lt_trans hmore htext)⟩
      | _ => none
  | _ => none

def takeScalar (cs : List Char) : Option (Taken Json cs) :=
  match cs with
  | 'n' :: 'u' :: 'l' :: 'l' :: rest => some ⟨.null, rest, by simp only [List.length_cons]; omega⟩
  | 't' :: 'r' :: 'u' :: 'e' :: rest =>
    some ⟨.boolean true, rest, by simp only [List.length_cons]; omega⟩
  | 'f' :: 'a' :: 'l' :: 's' :: 'e' :: rest =>
    some ⟨.boolean false, rest, by simp only [List.length_cons]; omega⟩
  | '"' :: text =>
    (takeString text).map fun t =>
      ⟨.string (String.ofList t.value), t.rest, Nat.lt_succ_of_lt t.shorter⟩
  | other =>
    match h : takeNumber other with
    | none => none
    | some (parts, rest) => parts.value?.map fun j => ⟨j, rest, takeNumber_length h⟩

def Taken.map {α β : Type} {cs earlier : List Char} (f : α → β) (h : cs.length ≤ earlier.length)
    (t : Taken α cs) : Taken β earlier :=
  ⟨f t.value, t.rest, Nat.lt_of_lt_of_le t.shorter h⟩

def takeValue (room : Nat) (cs : List Char) : Option (Taken Json cs) :=
  match h : skipSpace cs with
  | '[' :: more =>
    match room with
    | 0 => none
    | room + 1 =>
      (takeEnclosed ']' (takeValue room) more).map
        (.map .array (Nat.le_of_lt (length_lt_of_skipSpace h)))
  | '\x7b' :: more =>
    match room with
    | 0 => none
    | room + 1 =>
      (takeEnclosed '\x7d' (takeField (takeValue room)) more).map
        (.map .object (Nat.le_of_lt (length_lt_of_skipSpace h)))
  | text => (takeScalar text).map (.map id (length_le_of_skipSpace h))
  termination_by structural room

def maxNesting : Nat := 127

def parseChars (cs : List Char) : Option Json :=
  match takeValue maxNesting cs with
  | none => none
  | some t => if (skipSpace t.rest).isEmpty then some t.value else none

def parse (text : String) : Option Json := parseChars text.toList

end Monitoring.Json
