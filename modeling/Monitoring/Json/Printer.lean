import Monitoring.Json.Basic

namespace Monitoring.Json

def charText (c : Char) : List Char :=
  if c = '"' then ['\\', '"']
  else if c = '\\' then ['\\', '\\']
  else if c = '\n' then ['\\', 'n']
  else if c = '\r' then ['\\', 'r']
  else if c = '\t' then ['\\', 't']
  else if c.toNat = 0x08 then ['\\', 'b']
  else if c.toNat = 0x0C then ['\\', 'f']
  else if c.toNat < 0x20 then
    ['\\', 'u', '0', '0', Nat.digitChar (c.toNat / 16), Nat.digitChar (c.toNat % 16)]
  else [c]

def quoted (s : String) : List Char := '"' :: (s.toList.flatMap charText ++ ['"'])

def integerText (n : Int) : List Char :=
  if n < 0 then '-' :: Nat.toDigits 10 n.natAbs else Nat.toDigits 10 n.natAbs

structure Layout where
  lineBreak : (level : Nat) → List Char
  gap : List Char
  isSpace_of_mem_lineBreak : ∀ level, ∀ c ∈ lineBreak level, isSpace c = true
  isSpace_of_mem_gap : ∀ c ∈ gap, isSpace c = true

namespace Layout

def compact : Layout := ⟨fun _ => [], [], by simp, by simp⟩

def indented : Layout where
  lineBreak level := '\n' :: List.replicate (2 * level) ' '
  gap := [' ']
  isSpace_of_mem_lineBreak := by
    intro level c hc
    simp only [List.mem_cons, List.mem_replicate] at hc
    obtain rfl | ⟨_, rfl⟩ := hc <;> rfl
  isSpace_of_mem_gap := by
    intro c hc
    obtain rfl := List.mem_singleton.mp hc
    rfl

def enclose (y : Layout) (level : Nat) (close : Char) : List (List Char) → List Char
  | [] => [close]
  | [element] => y.lineBreak (level + 1) ++ (element ++ (y.lineBreak level ++ [close]))
  | element :: next :: rest =>
    y.lineBreak (level + 1) ++ (element ++ ',' :: y.enclose level close (next :: rest))

end Layout

mutual

def chars (y : Layout) (level : Nat) : Json → List Char
  | null => ['n', 'u', 'l', 'l']
  | boolean true => ['t', 'r', 'u', 'e']
  | boolean false => ['f', 'a', 'l', 's', 'e']
  | integer n => integerText n
  | decimal literal => literal.toList
  | string s => quoted s
  | array items => '[' :: y.enclose level ']' (itemsChars y (level + 1) items)
  | object fields => '\x7b' :: y.enclose level '\x7d' (fieldsChars y (level + 1) fields)

def itemsChars (y : Layout) (level : Nat) : List Json → List (List Char)
  | [] => []
  | item :: rest => item.chars y level :: itemsChars y level rest

def fieldsChars (y : Layout) (level : Nat) : List (String × Json) → List (List Char)
  | [] => []
  | (key, value) :: rest =>
    (quoted key ++ ':' :: (y.gap ++ value.chars y level)) :: fieldsChars y level rest

end

def text (y : Layout) (j : Json) : String := String.ofList (j.chars y 0)

def compact (j : Json) : String := j.text .compact

def pretty (j : Json) : String := j.text .indented

end Monitoring.Json
