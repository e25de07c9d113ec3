namespace Monitoring.Text

def codeInRanges (n : Nat) : List (Nat × Nat) → Bool
  | [] => false
  | (first, last) :: rest => if n < first then false else n ≤ last || codeInRanges n rest

def inRanges (ranges : List (Nat × Nat)) (c : Char) : Bool := codeInRanges c.toNat ranges

def blankRanges : List (Nat × Nat) :=
  [(0x9, 0xD), (0x20, 0x20), (0x85, 0x85), (0xA0, 0xA0), (0x1680, 0x1680), (0x2000, 0x200A),
   (0x2028, 0x2029), (0x202F, 0x202F), (0x205F, 0x205F), (0x3000, 0x3000)]

def isBlankChar (c : Char) : Bool := inRanges blankRanges c

def isBlank (s : String) : Bool := s.toList.all isBlankChar

def letterRanges : List (Nat × Nat) :=
  [(0x41, 0x5A), (0x61, 0x7A), (0xAA, 0xAA), (0xB5, 0xB5), (0xBA, 0xBA), (0xC0, 0xD6),
   (0xD8, 0xF6), (0xF8, 0xFF)]

def isIdentifierStart (b : UInt8) : Bool := b = '_'.toUInt8 || codeInRanges b.toNat letterRanges

def isIdentifierFollow (b : UInt8) : Bool :=
  isIdentifierStart b || codeInRanges b.toNat [(0x30, 0x39), (0xB7, 0xB7)]

def startsIdentifier (c : Char) : Bool :=
  match String.utf8EncodeChar c with
  | [] => false
  | b :: rest => isIdentifierStart b && rest.all isIdentifierFollow

def followsIdentifier (c : Char) : Bool := (String.utf8EncodeChar c).all isIdentifierFollow

def asciiLower (s : String) : String := String.ofList (s.toList.map Char.toLower)

def equalsIgnoringCase (s t : String) : Bool :=
  s.toList.map Char.toLower == t.toList.map Char.toLower

def digitsValue (n : Nat) (digits : List Char) : Nat := Nat.ofDigitChars 10 digits n

def takeDigits (cs : List Char) : Option (List Char × List Char) :=
  match cs.takeWhile Char.isDigit with
  | [] => none
  | digits => some (digits, cs.dropWhile Char.isDigit)

theorem takeDigits_length {cs digits rest : List Char} (h : takeDigits cs = some (digits, rest)) :
    rest.length < cs.length := by
  unfold takeDigits at h
  split at h
  · simp at h
  · rename_i hd
    simp only [Option.some.injEq, Prod.mk.injEq] at h
    obtain ⟨rfl, rfl⟩ := h
    have := congrArg List.length (List.takeWhile_append_dropWhile (p := Char.isDigit) (l := cs))
    simp only [List.length_append] at this
    have : 0 < (cs.takeWhile Char.isDigit).length := by
      cases hw : cs.takeWhile Char.isDigit with
      | nil => exact absurd hw hd
      | cons => simp
    omega

def hexDigit? (c : Char) : Option Nat :=
  if c.isDigit then some (c.toNat - '0'.toNat)
  else if 'a' ≤ c ∧ c ≤ 'f' then some (c.toNat - 'a'.toNat + 10)
  else if 'A' ≤ c ∧ c ≤ 'F' then some (c.toNat - 'A'.toNat + 10)
  else none

def takeHex (n : Nat) : (count : Nat) → List Char → Option (Nat × List Char)
  | 0, cs => some (n, cs)
  | _ + 1, [] => none
  | count + 1, c :: cs =>
    match hexDigit? c with
    | some d => takeHex (16 * n + d) count cs
    | none => none

theorem takeHex_length {n m count : Nat} {cs rest : List Char}
    (h : takeHex n count cs = some (m, rest)) : rest.length ≤ cs.length := by
  fun_induction takeHex n count cs with
  | case1 => simp at h; simp [h.2]
  | case2 => simp at h
  | case3 n count c cs d hd ih => have := ih h; simp only [List.length_cons]; omega
  | case4 => simp at h

end Monitoring.Text
