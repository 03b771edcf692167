/-! # Bytes

Texts travel as UTF-8, and bytes that are not the encoding of a text stay bytes. Where bytes have to be
shown they are written as hexadecimal digits.
-/
namespace LocationRelay.Text

abbrev Bytes := List UInt8

def encode (s : String) : Bytes := s.toUTF8.toList

def decode? (bytes : Bytes) : Option String := String.fromUTF8? bytes.toByteArray

/-! ## Hexadecimal digits -/

def hexDigits : Array Char :=
  #['0', '1', '2', '3', '4', '5', '6', '7', '8', '9', 'a', 'b', 'c', 'd', 'e', 'f']

def hexOfBytes (bytes : Bytes) : String :=
  String.ofList (bytes.flatMap fun b =>
    [hexDigits[b.toNat / 16]?.getD '0', hexDigits[b.toNat % 16]?.getD '0'])

def hexDigit? (c : Char) : Option Nat :=
  if '0' ≤ c ∧ c ≤ '9' then some (c.toNat - '0'.toNat)
  else if 'a' ≤ c ∧ c ≤ 'f' then some (c.toNat - 'a'.toNat + 10)
  else if 'A' ≤ c ∧ c ≤ 'F' then some (c.toNat - 'A'.toNat + 10)
  else none

def bytesOfHex? : List Char → Option Bytes
  | [] => some []
  | [_] => none
  | a :: b :: cs => do
    let high ← hexDigit? a
    let low ← hexDigit? b
    return UInt8.ofNat (16 * high + low) :: (← bytesOfHex? cs)

end LocationRelay.Text
