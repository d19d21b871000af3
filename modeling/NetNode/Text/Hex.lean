/-!
# Lowercase hexadecimal text of bytes

Byte strings travel as lowercase hexadecimal, two digits per byte. `decode` reads the same
format and refuses an odd length or a character outside `0-9a-fA-F`.
-/

namespace NetNode.Text.Hex

/-- The digit character of a value below sixteen. -/
def digit (n : Nat) : Char :=
  if n < 10 then Char.ofNat (48 + n) else Char.ofNat (87 + n)

/-- The two lowercase digits of one byte, high nibble first. -/
def byteChars (b : UInt8) : List Char :=
  [digit (b.toNat / 16), digit (b.toNat % 16)]

/-- The hexadecimal text of a byte list. -/
def encode (bytes : List UInt8) : String :=
  String.ofList (bytes.flatMap byteChars)

/-- The value of one hexadecimal digit of either case. -/
def value? (c : Char) : Option Nat :=
  if '0' ≤ c ∧ c ≤ '9' then some (c.toNat - 48)
  else if 'a' ≤ c ∧ c ≤ 'f' then some (c.toNat - 87)
  else if 'A' ≤ c ∧ c ≤ 'F' then some (c.toNat - 55)
  else none

/-- Read pairs of digits into bytes. -/
def decodeChars : List Char → Option (List UInt8)
  | [] => some []
  | [_] => none
  | hi :: lo :: rest => do
      let h ← value? hi
      let l ← value? lo
      let tail ← decodeChars rest
      pure ((h * 16 + l).toUInt8 :: tail)

/-- The bytes written by a hexadecimal text, if it is one. -/
def decode (text : String) : Option (List UInt8) :=
  decodeChars text.toList

end NetNode.Text.Hex
