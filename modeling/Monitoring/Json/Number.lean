import Monitoring.Json.Basic
import Monitoring.Text.Character

namespace Monitoring.Json

open Text (digitsValue takeDigits takeDigits_length)

structure NumberParts where
  negative : Bool
  whole : List Char
  fraction : Option (List Char)
  exponent : Option (Option Char × List Char)
  deriving DecidableEq, Repr

def doubleLimit : Nat := Nat.pow 2 1024 - Nat.pow 2 970

def nearestDouble (n : Nat) : Nat :=
  let unit := Nat.pow 2 (n.log2 - 52)
  let below := n / unit
  let rest := n % unit
  let up := unit < 2 * rest || (unit = 2 * rest && below % 2 = 1)
  (if up then below + 1 else below) * unit

namespace NumberParts

def text (p : NumberParts) : List Char :=
  let fraction := match p.fraction with
    | some digits => '.' :: digits
    | none => []
  let exponent := match p.exponent with
    | some (some sign, digits) => 'e' :: sign :: digits
    | some (none, digits) => 'e' :: digits
    | none => []
  (if p.negative then ['-'] else []) ++ p.whole ++ fraction ++ exponent

def power (p : NumberParts) : Int :=
  match p.exponent with
  | some (some '-', digits) => -(digitsValue 0 digits : Nat)
  | some (_, digits) => (digitsValue 0 digits : Nat)
  | none => 0

def fill (n : Nat) : List Char → Nat × List Char
  | [] => (n, [])
  | d :: ds =>
    let longer := digitsValue n [d]
    if longer < UInt64.size then fill longer ds else (n, d :: ds)

def significand (p : NumberParts) : Nat × Int :=
  let (whole, overWhole) := fill 0 p.whole
  let fraction := p.fraction.getD []
  let (n, overFraction) := fill whole fraction
  (n, p.power + overWhole.length - (fraction.length - overFraction.length : Nat))

/-- Whether the product of significand and power, each rounded on its own, is infinite. The power
is negative for a quotient, which never is. -/
def isTooLarge (p : NumberParts) : Bool :=
  let (n, e) := p.significand
  n ≠ 0 && 0 ≤ e &&
    (308 < e || doubleLimit ≤ nearestDouble n * nearestDouble (Nat.pow 10 e.toNat))

def value? (p : NumberParts) : Option Json :=
  let n := digitsValue 0 p.whole
  if p.fraction.isNone && p.exponent.isNone && !p.negative && n < UInt64.size then
    some (.integer n)
  else if p.fraction.isNone && p.exponent.isNone && p.negative && 0 < n &&
      Int64.minValue.toInt ≤ -(n : Int) then
    some (.integer (-n))
  else if p.isTooLarge then none
  else some (.decimal (String.ofList p.text))

end NumberParts

def takeWhole (cs : List Char) : Option (List Char × List Char) :=
  match cs with
  | '0' :: d :: rest => if d.isDigit then none else some (['0'], d :: rest)
  | _ => takeDigits cs

def takeFraction (cs : List Char) : Option (Option (List Char) × List Char) :=
  match cs with
  | '.' :: rest => (takeDigits rest).map fun (digits, rest) => (some digits, rest)
  | _ => some (none, cs)

def takeExponent (cs : List Char) :
    Option (Option (Option Char × List Char) × List Char) :=
  match cs with
  | [] => some (none, [])
  | c :: rest =>
    if c = 'e' || c = 'E' then
      match rest with
      | [] => none
      | sign :: more =>
        if sign = '+' || sign = '-' then
          (takeDigits more).map fun (digits, rest) => (some (some sign, digits), rest)
        else (takeDigits rest).map fun (digits, rest) => (some (none, digits), rest)
    else some (none, cs)

def takeNumber (cs : List Char) : Option (NumberParts × List Char) := do
  let (negative, cs) := match cs with
    | '-' :: rest => (true, rest)
    | _ => (false, cs)
  let (whole, cs) ← takeWhole cs
  let (fraction, cs) ← takeFraction cs
  let (exponent, cs) ← takeExponent cs
  return (⟨negative, whole, fraction, exponent⟩, cs)

theorem takeWhole_length {cs digits rest : List Char} (h : takeWhole cs = some (digits, rest)) :
    rest.length < cs.length := by
  unfold takeWhole at h
  split at h
  · split at h <;> simp at h
    obtain ⟨rfl, rfl⟩ := h
    simp
  · exact takeDigits_length h

theorem takeFraction_length {cs rest : List Char} {fraction : Option (List Char)}
    (h : takeFraction cs = some (fraction, rest)) : rest.length ≤ cs.length := by
  unfold takeFraction at h
  split at h
  · simp only [Option.map_eq_some_iff, Prod.exists, Prod.mk.injEq] at h
    obtain ⟨_, _, hd, _, rfl⟩ := h
    have := takeDigits_length hd
    simp only [List.length_cons]; omega
  · simp at h
    obtain ⟨_, rfl⟩ := h
    exact Nat.le_refl _

theorem takeExponent_length {cs rest : List Char} {exponent : Option (Option Char × List Char)}
    (h : takeExponent cs = some (exponent, rest)) : rest.length ≤ cs.length := by
  unfold takeExponent at h
  split at h
  · simp at h
    simp [← h.2]
  · split at h
    · split at h
      · simp at h
      · split at h
        all_goals
          simp only [Option.map_eq_some_iff, Prod.exists, Prod.mk.injEq] at h
          obtain ⟨_, _, hd, _, rfl⟩ := h
          have := takeDigits_length hd
          simp only [List.length_cons] at *; omega
    · simp at h
      obtain ⟨_, rfl⟩ := h
      exact Nat.le_refl _

theorem takeNumber_length {cs rest : List Char} {p : NumberParts}
    (h : takeNumber cs = some (p, rest)) : rest.length < cs.length := by
  unfold takeNumber at h
  simp only [Option.bind_eq_bind, Option.bind_eq_some_iff, Prod.exists] at h
  obtain ⟨_, _, hw, _, _, hf, _, _, he, hr⟩ := h
  simp only [Option.pure_def, Option.some.injEq, Prod.mk.injEq] at hr
  obtain ⟨_, rfl⟩ := hr
  have := takeWhole_length hw
  have := takeFraction_length hf
  have := takeExponent_length he
  split at * <;> simp only [List.length_cons] at * <;> omega

end Monitoring.Json
