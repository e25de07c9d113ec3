import Monitoring.Json.Number

namespace Monitoring.Yaml

open Text (digitsValue)

def nullTexts : List String := ["", "~", "null", "Null", "NULL"]

def truthTexts : List String := ["true", "True", "TRUE", "false", "False", "FALSE"]

def basedValue? (base : Nat) (cs : List Char) : Option Nat :=
  if cs.isEmpty then none
  else cs.foldlM (fun n c => (Text.hexDigit? c).bind fun d =>
    if d < base then some (base * n + d) else none) 0

def markedValue? : List Char → Option Nat
  | '0' :: 'x' :: digits => basedValue? 16 digits
  | '0' :: 'o' :: digits => basedValue? 8 digits
  | '0' :: 'b' :: digits => basedValue? 2 digits
  | _ => none

def isMarkedInteger : List Char → Bool
  | '-' :: cs => (markedValue? cs).any fun n => n ≤ Nat.pow 2 127
  | '+' :: cs => (markedValue? cs).any fun n => n < Nat.pow 2 128
  | cs => (markedValue? cs).any fun n => n < Nat.pow 2 128

def dropSign : List Char → List Char
  | '-' :: cs => cs
  | '+' :: cs => cs
  | cs => cs

def decimalParts? (cs : List Char) : Option Json.NumberParts := do
  let whole := cs.takeWhile Char.isDigit
  let (fraction, rest) := match cs.dropWhile Char.isDigit with
    | '.' :: rest => (some (rest.takeWhile Char.isDigit), rest.dropWhile Char.isDigit)
    | rest => (none, rest)
  let (exponent, rest) ← Json.takeExponent rest
  if rest.isEmpty && !(whole.isEmpty && (fraction.getD []).isEmpty) then
    return ⟨false, whole, fraction, exponent⟩
  else none

def isInfinite (p : Json.NumberParts) : Bool :=
  let fraction := p.fraction.getD []
  let n := digitsValue 0 (p.whole ++ fraction)
  let e := p.power - fraction.length
  let places := (Nat.toDigits 10 n).length + e
  if n = 0 || places < 309 then false
  else if 309 < places then true
  else if 0 ≤ e then Json.doubleLimit ≤ n * Nat.pow 10 e.toNat
  else Json.doubleLimit * Nat.pow 10 (-e).toNat ≤ n

def isDecimal (cs : List Char) : Bool :=
  (decimalParts? (dropSign cs)).any fun p => !isInfinite p

def isSpecialNumber (text : String) : Bool :=
  [".inf", ".Inf", ".INF"].contains (String.ofList (dropSign text.toList)) ||
    [".nan", ".NaN", ".NAN"].contains text

def isZeroPadded (cs : List Char) : Bool :=
  match dropSign cs with
  | '0' :: d :: rest => (d :: rest).all Char.isDigit
  | _ => false

def isAmbiguous (text : String) : Bool :=
  nullTexts.contains text || truthTexts.contains text || isMarkedInteger text.toList ||
    isDecimal text.toList || isSpecialNumber text || isZeroPadded text.toList

end Monitoring.Yaml
