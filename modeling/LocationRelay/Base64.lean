import LocationRelay.Text.Hex

/-! # Base64

Bytes as digits of six bits. Tokens use the alphabet that is safe in addresses and no padding; keys
use the standard alphabet and pad the last group. Reading is strict: the bits left over in the last
digit have to be zero, and padding has to be there exactly as writing would put it.
-/
namespace LocationRelay.Base64

open Text (Bytes)

/-- An alphabet, told by its last two digits, and whether the last group is padded. -/
structure Form where
  digit62 : Char
  digit63 : Char
  padded : Bool

def token : Form := ⟨'-', '_', false⟩

def standard : Form := ⟨'+', '/', true⟩

def digit (f : Form) (n : Nat) : Char :=
  if n < 26 then Char.ofNat (65 + n)
  else if n < 52 then Char.ofNat (71 + n)
  else if n < 62 then Char.ofNat (n - 4)
  else if n = 62 then f.digit62
  else f.digit63

def value? (f : Form) (c : Char) : Option Nat :=
  if 'A' ≤ c ∧ c ≤ 'Z' then some (c.toNat - 65)
  else if 'a' ≤ c ∧ c ≤ 'z' then some (c.toNat - 71)
  else if '0' ≤ c ∧ c ≤ '9' then some (c.toNat + 4)
  else if c = f.digit62 then some 62
  else if c = f.digit63 then some 63
  else none

def padding (f : Form) (n : Nat) : List Char := if f.padded then List.replicate n '=' else []

def encode (f : Form) : Bytes → List Char
  | [] => []
  | [a] =>
    let n := 16 * a.toNat
    [digit f (n / 64), digit f (n % 64)] ++ padding f 2
  | [a, b] =>
    let n := 4 * (256 * a.toNat + b.toNat)
    [digit f (n / 4096), digit f (n / 64 % 64), digit f (n % 64)] ++ padding f 1
  | a :: b :: c :: rest =>
    let n := 65536 * a.toNat + 256 * b.toNat + c.toNat
    digit f (n / 262144) :: digit f (n / 4096 % 64) :: digit f (n / 64 % 64) :: digit f (n % 64) ::
      encode f rest

def decodeTail? (f : Form) : List Char → Option Bytes
  | [] => some []
  | [c, d] => do
    let n := 64 * (← value? f c) + (← value? f d)
    if n % 16 = 0 then some [UInt8.ofNat (n / 16)] else none
  | [c, d, e] => do
    let n := 4096 * (← value? f c) + 64 * (← value? f d) + (← value? f e)
    if n % 4 = 0 then some [UInt8.ofNat (n / 1024), UInt8.ofNat (n / 4 % 256)] else none
  | _ => none

def tailOf? (f : Form) : List Char → Option (List Char)
  | [c, d, '=', '='] => if f.padded then some [c, d] else none
  | [c, d, e, '='] => if f.padded then some [c, d, e] else none
  | cs => if f.padded then (if cs.isEmpty then some [] else none) else some cs

def decode? (f : Form) : List Char → Option Bytes
  | c :: d :: e :: g :: rest =>
    if rest = [] ∧ g = '=' then do decodeTail? f (← tailOf? f [c, d, e, g])
    else do
      let n := 262144 * (← value? f c) + 4096 * (← value? f d) + 64 * (← value? f e) +
        (← value? f g)
      return UInt8.ofNat (n / 65536) :: UInt8.ofNat (n / 256 % 256) :: UInt8.ofNat (n % 256) ::
        (← decode? f rest)
  | cs => do decodeTail? f (← tailOf? f cs)

end LocationRelay.Base64
