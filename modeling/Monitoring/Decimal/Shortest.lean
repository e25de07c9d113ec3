namespace Monitoring.Decimal

structure Binary where
  mantissa : Nat
  exponent : Int
  deriving Repr

def Binary.ofFloat (x : Float) : Binary :=
  let bits : Nat := x.toBits.toNat % Nat.pow 2 63
  let stored : Nat := bits / Nat.pow 2 52
  let fraction : Nat := bits % Nat.pow 2 52
  if stored = 0 then ⟨fraction, -1074⟩ else ⟨Nat.pow 2 52 + fraction, stored - 1075⟩

/-- The value and the ends of the interval of reals that round to it, in quarters of the last
binary place and over one denominator. Below a power of two the places are half as wide. -/
structure Interval where
  low : Nat
  value : Nat
  high : Nat
  denominator : Nat
  closed : Bool

def Binary.interval (b : Binary) : Interval :=
  let quarter := b.exponent - 2
  let shift := Nat.pow 2 quarter.toNat
  let low := if b.mantissa = Nat.pow 2 52 ∧ -1074 < b.exponent then 1 else 2
  ⟨(4 * b.mantissa - low) * shift, 4 * b.mantissa * shift, (4 * b.mantissa + 2) * shift,
    Nat.pow 2 (-quarter).toNat, b.mantissa % 2 = 0⟩

def Interval.contains (i : Interval) (digits : Nat) (exponent : Int) : Bool :=
  let n := digits * Nat.pow 10 exponent.toNat * i.denominator
  let unit := Nat.pow 10 (-exponent).toNat
  if i.closed then i.low * unit ≤ n && n ≤ i.high * unit
  else i.low * unit < n && n < i.high * unit

def Interval.places (i : Interval) : Int :=
  if i.denominator ≤ i.value then (Nat.toDigits 10 (i.value / i.denominator)).length
  else 1 - (Nat.toDigits 10 (i.denominator / i.value)).length

def Interval.nearest? (i : Interval) (exponent : Int) : Option Nat :=
  let unit := Nat.pow 10 exponent.toNat * i.denominator
  let scaled := i.value * Nat.pow 10 (-exponent).toNat
  let below := scaled / unit
  let remainder := scaled % unit
  let above := below + 1
  match i.contains below exponent, i.contains above exponent with
  | true, true =>
    if 2 * remainder < unit then some below
    else if unit < 2 * remainder then some above
    else some (if below % 2 = 0 then below else above)
  | true, false => some below
  | false, true => some above
  | false, false => none

structure Shortest where
  digits : Nat
  exponent : Int
  deriving DecidableEq, Repr

def Interval.search (i : Interval) (count : Nat) : Nat → Shortest
  | 0 => ⟨i.value / i.denominator, 0⟩
  | more + 1 =>
    let exponent := i.places - count
    match i.nearest? exponent with
    | some digits => ⟨digits, exponent⟩
    | none => i.search (count + 1) more

def Shortest.trim (s : Shortest) : Nat → Shortest
  | 0 => s
  | fuel + 1 =>
    if s.digits ≠ 0 ∧ s.digits % 10 = 0 then Shortest.trim ⟨s.digits / 10, s.exponent + 1⟩ fuel
    else s

/-- The decimal of fewest digits, and of those the nearest, that reads back as the magnitude. -/
def shortest (b : Binary) : Shortest :=
  if b.mantissa = 0 then ⟨0, 0⟩ else (b.interval.search 1 17).trim 17

structure Layout where
  maxPlaces : Nat
  maxZeros : Nat
  plus : Bool

def zeros (n : Nat) : List Char := List.replicate n '0'

def Layout.exponentChars (l : Layout) (n : Int) : List Char :=
  let sign := if n < 0 then ['-'] else if l.plus then ['+'] else []
  'e' :: (sign ++ Nat.toDigits 10 n.natAbs)

def Layout.chars (l : Layout) (s : Shortest) : List Char :=
  let digits := Nat.toDigits 10 s.digits
  let places := digits.length + s.exponent
  if s.digits = 0 then ['0', '.', '0']
  else if 0 ≤ s.exponent ∧ places ≤ l.maxPlaces then
    digits ++ zeros s.exponent.toNat ++ ['.', '0']
  else if 0 < places ∧ places ≤ l.maxPlaces then
    digits.take places.toNat ++ '.' :: digits.drop places.toNat
  else if places ≤ 0 ∧ -places ≤ l.maxZeros then
    '0' :: '.' :: (zeros (-places).toNat ++ digits)
  else
    let mantissa := match digits with
      | [d] => [d]
      | d :: rest => d :: '.' :: rest
      | [] => []
    mantissa ++ l.exponentChars (places - 1)

def Layout.format (l : Layout) (x : Float) : String :=
  let text := l.chars (shortest (Binary.ofFloat x))
  String.ofList (if x.toBits.toNat < Nat.pow 2 63 then text else '-' :: text)

end Monitoring.Decimal
