namespace Monitoring.Uuid

def size : Nat := 16

def mark (index : Nat) (byte : UInt8) : UInt8 :=
  if index = 6 then byte &&& 0x0F ||| 0x40
  else if index = 8 then byte &&& 0x3F ||| 0x80
  else byte

def byteChars (byte : UInt8) : List Char :=
  [Nat.digitChar (byte.toNat / 16), Nat.digitChar (byte.toNat % 16)]

def chars (index : Nat) : List UInt8 → List Char
  | [] => []
  | byte :: rest =>
    let hyphen := if [4, 6, 8, 10].contains index then ['-'] else []
    hyphen ++ byteChars (mark index byte) ++ chars (index + 1) rest

def ofBytes (bytes : List UInt8) : String := String.ofList (chars 0 (bytes.take size))

def pick (bytes : List UInt8) (index : Nat) : String := ofBytes (bytes.drop (size * index))

end Monitoring.Uuid
