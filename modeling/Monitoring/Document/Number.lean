import Monitoring.Decimal.Shortest

namespace Monitoring

inductive Number
  | whole (value : Int)
  | fraction (value : Float)

namespace Number

def fitsWhole (n : Int) : Bool := Int64.minValue.toInt ≤ n && n < UInt64.size

def floatOfInt (n : Int) : Float :=
  if 0 ≤ n then n.toNat.toUInt64.toFloat else -n.natAbs.toUInt64.toFloat

def intOfFloat (x : Float) : Int :=
  if x < 0 then -(x.abs.toUInt64.toNat : Int) else x.toUInt64.toNat

def ofFloat (x : Float) : Number :=
  if x.floor == x && (-9223372036854775808.0) ≤ x && x < 18446744073709551616.0 then
    whole (intOfFloat x)
  else fraction x

def ofInt (n : Int) : Number :=
  if fitsWhole n then whole n
  else fraction (if n < 0 then -Float.ofNat n.natAbs else Float.ofNat n.natAbs)

def toFloat : Number → Float
  | whole n => floatOfInt n
  | fraction x => x

def int64? : Number → Option Int64
  | whole n =>
    if Int64.minValue.toInt ≤ n ∧ n ≤ Int64.maxValue.toInt then some (Int64.ofInt n) else none
  | fraction _ => none

def agree (a b : Int) : Bool := decide (a < 0) = decide (b < 0)

def combine (exact : Int → Int → Int) (approximate : Float → Float → Float) :
    Number → Number → Number
  | whole a, whole b =>
    if agree a b then ofInt (exact a b) else ofFloat (approximate (floatOfInt a) (floatOfInt b))
  | a, b => ofFloat (approximate a.toFloat b.toFloat)

def add : Number → Number → Number := combine (· + ·) (· + ·)

def sub : Number → Number → Number := combine (· - ·) (· - ·)

def mul : Number → Number → Number := combine (· * ·) (· * ·)

def div (a b : Number) : Number := ofFloat (a.toFloat / b.toFloat)

def magnitudeRemainder (a b : Decimal.Binary) : Float :=
  let e := min a.exponent b.exponent
  let m := a.mantissa * Nat.pow 2 (a.exponent - e).toNat
  let n := b.mantissa * Nat.pow 2 (b.exponent - e).toNat
  Float.scaleB (Float.ofNat (m % n)) e

def floatRemainder (a b : Float) : Float :=
  if !a.isFinite || b.isNaN || b == 0 then 0.0 / 0.0
  else if !b.isFinite then a
  else
    let r := magnitudeRemainder (.ofFloat a) (.ofFloat b)
    if a < 0 then -r else r

def rem? : Number → Number → Option Number
  | whole _, whole 0 => none
  | a, b => some (combine Int.tmod floatRemainder a b)

def neg : Number → Number
  | whole n => ofInt (-n)
  | fraction x => fraction (-x)

def equals : Number → Number → Bool
  | whole a, whole b => a = b
  | a, b => a.toFloat == b.toFloat

def less : Number → Number → Bool
  | whole a, whole b => a < b
  | a, b => a.toFloat < b.toFloat

def atMost : Number → Number → Bool
  | whole a, whole b => a ≤ b
  | a, b => a.toFloat ≤ b.toFloat

def textLayout : Decimal.Layout := ⟨16, 4, false⟩

def text : Number → String
  | whole n => toString n
  | fraction x => textLayout.format x

end Number

end Monitoring
