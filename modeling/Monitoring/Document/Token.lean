import Monitoring.Document.Basic
import Monitoring.Text.Character

namespace Monitoring.Document

open Text (takeDigits)

def closeComment : List Char → Option (List Char)
  | '*' :: '/' :: rest => some rest
  | _ :: rest => closeComment rest
  | [] => none

theorem closeComment_length {cs rest : List Char} (h : closeComment cs = some rest) :
    rest.length < cs.length := by
  fun_induction closeComment cs with
  | case1 => simp at h; subst h; simp only [List.length_cons]; omega
  | case2 _ _ _ ih => have := ih h; simp only [List.length_cons]; omega
  | case3 => simp at h

def takeLineBreak : List Char → Option (List Char × List Char)
  | '\n' :: rest => some (['\n'], rest)
  | '\r' :: '\n' :: rest => some (['\r', '\n'], rest)
  | _ => none

def skipLine : List Char → Option (List Char)
  | [] => some []
  | '\n' :: rest => some ('\n' :: rest)
  | '\r' :: '\n' :: rest => some ('\r' :: '\n' :: rest)
  | '\r' :: _ => none
  | _ :: rest => skipLine rest

theorem skipLine_length {cs rest : List Char} (h : skipLine cs = some rest) :
    rest.length ≤ cs.length := by
  fun_induction skipLine cs with
  | case1 | case2 | case3 => simp at h; simp [← h]
  | case4 => simp at h
  | case5 _ _ _ _ _ ih => have := ih h; simp only [List.length_cons]; omega

def skip (lines : Bool) (cs : List Char) : List Char :=
  match cs with
  | [] => []
  | c :: rest =>
    if c = ' ' || c = '\t' || lines && (c = '\n' || c = '\r') then skip lines rest
    else if lines && c = '#' then
      match h : skipLine rest with
      | some after =>
        have := skipLine_length h
        skip lines after
      | none => cs
    else if c = '/' then
      match rest with
      | '*' :: more =>
        match h : closeComment more with
        | some after =>
          have := closeComment_length h
          skip lines after
        | none => cs
      | '/' :: more =>
        match h : skipLine more with
        | some after =>
          have := skipLine_length h
          if lines then skip lines after else cs
        | none => cs
      | _ => cs
    else cs
  termination_by cs.length
  decreasing_by all_goals simp_all only [List.length_cons]; omega

def lineEnd (cs : List Char) : Option (List Char) := do
  let cs := skip false cs
  let cs ← match cs with
    | '#' :: rest => skipLine rest
    | '/' :: '/' :: rest => skipLine rest
    | _ => some cs
  if cs.isEmpty then return [] else return (← takeLineBreak cs).2

def isNameChar (c : Char) : Bool := c = '-' || Text.followsIdentifier c

def takeName : List Char → Option (String × List Char)
  | [] => none
  | c :: cs =>
    if Text.startsIdentifier c then
      some (String.ofList (c :: cs.takeWhile isNameChar), cs.dropWhile isNameChar)
    else none

def dropBlanks (cs : List Char) : List Char := cs.dropWhile fun c => c = ' ' || c = '\t'

def takeChar (c : Char) : List Char → Option (List Char)
  | d :: rest => if d = c then some rest else none
  | [] => none

def takeWord (word : String) (cs : List Char) : Option (List Char) :=
  if word.toList.isPrefixOf cs then some (cs.drop word.length) else none

def takeFor (cs : List Char) : Option (List Char) := do
  let rest ← takeWord "for" cs
  if rest.head?.any fun c => c = ' ' || c = '\t' || c = '#' || c = '/' then return rest else none

def takeFraction : List Char → Option (List Char × List Char)
  | '.' :: rest => takeDigits rest
  | _ => none

def takeExponent : List Char → Option (Int × List Char)
  | [] => none
  | e :: rest =>
    if e = 'e' || e = 'E' then
      let (negative, digits) := match rest with
        | '-' :: more => (true, more)
        | '+' :: more => (false, more)
        | _ => (false, rest)
      match takeDigits digits with
      | some (ds, rest) =>
        let n : Nat := Text.digitsValue 0 ds
        some (if negative then -(n : Int) else n, rest)
      | none => none
    else none

def nearestFloat (digits : Nat) (exponent : Int) : Option Float :=
  let places := (Nat.toDigits 10 digits).length + exponent
  if digits = 0 || places < -400 then some 0.0
  else if 400 < places then none
  else
    let x := if 0 ≤ exponent then Float.ofScientific digits false exponent.toNat
      else Float.ofScientific digits true exponent.natAbs
    if x.isFinite then some x else none

def takeNumber (cs : List Char) : Option (Number × List Char) := do
  let (whole, rest) ← takeDigits cs
  let (fraction, rest) := (takeFraction rest).getD ([], rest)
  match takeExponent rest with
  | some (e, rest) =>
    let x ← nearestFloat (Text.digitsValue 0 (whole ++ fraction)) (e - fraction.length)
    return (.ofFloat x, rest)
  | none =>
    if fraction.isEmpty then
      let n := Text.digitsValue 0 whole
      if n < UInt64.size then return (.whole n, rest) else none
    else
      let x ← nearestFloat (Text.digitsValue 0 (whole ++ fraction)) (-fraction.length)
      return (.ofFloat x, rest)

def takePlace : List Char → Option (Nat × List Char)
  | '0' :: rest => some (0, rest)
  | cs => do
    let (digits, rest) ← takeDigits cs
    let n := Text.digitsValue 0 digits
    if n < UInt64.size then return (n, rest) else none

def charOfCode (n : Nat) : Option Char :=
  if h : n.isValidChar then some (Char.ofNatAux n h) else none

def takeEscape : List Char → Option (Char × List Char)
  | [] => none
  | e :: rest =>
    let code (count : Nat) : Option (Char × List Char) := do
      let (n, rest) ← Text.takeHex 0 count rest
      return (← charOfCode n, rest)
    match e with
    | 'n' => some ('\n', rest)
    | 'r' => some ('\r', rest)
    | 't' => some ('\t', rest)
    | 'b' => some ('\x08', rest)
    | 'f' => some ('\x0c', rest)
    | '"' | '\\' | '/' => some (e, rest)
    | 'u' => code 4
    | 'U' => code 8
    | _ => none

theorem takeEscape_length {cs rest : List Char} {c : Char} (h : takeEscape cs = some (c, rest)) :
    rest.length < cs.length := by
  cases cs with
  | nil => simp [takeEscape] at h
  | cons e cs =>
    have hex {n count : Nat} {r : List Char} (hn : Text.takeHex 0 count cs = some (n, r)) :
        r.length < cs.length + 1 := Nat.lt_succ_of_le (Text.takeHex_length hn)
    simp only [takeEscape, Option.bind_eq_bind, Option.pure_def] at h
    split at h <;> simp_all [Option.bind_eq_some_iff] <;> grind

def takeOperator : List Char → Option (BinaryOperator × List Char)
  | '=' :: '=' :: rest => some (.equal, rest)
  | '!' :: '=' :: rest => some (.notEqual, rest)
  | '<' :: '=' :: rest => some (.lessOrEqual, rest)
  | '>' :: '=' :: rest => some (.greaterOrEqual, rest)
  | '&' :: '&' :: rest => some (.and, rest)
  | '|' :: '|' :: rest => some (.or, rest)
  | '<' :: rest => some (.less, rest)
  | '>' :: rest => some (.greater, rest)
  | '+' :: rest => some (.add, rest)
  | '-' :: rest => some (.subtract, rest)
  | '*' :: rest => some (.multiply, rest)
  | '/' :: '/' :: _ => none
  | '/' :: rest => some (.divide, rest)
  | '%' :: rest => some (.remainder, rest)
  | _ => none

end Monitoring.Document
