import LocationRelay.Crypto.Rsa

/-! # Written RSA keys

The numbers of a key as a sequence of integers in their shortest form, with nothing left over.
-/
namespace LocationRelay.Key

open Text (Bytes)
open Crypto (RsaFault RsaPrivate RsaPublic)

/-- A length in its shortest form, of at most two bytes after the first. -/
def shortestLength? : Bytes → Option (Nat × Bytes)
  | 0x81 :: a :: rest => if a < 128 then none else some (a.toNat, rest)
  | 0x82 :: a :: b :: rest =>
    let n := 256 * a.toNat + b.toNat
    if n < 256 then none else some (n, rest)
  | a :: rest => if a < 128 then some (a.toNat, rest) else none
  | [] => none

def tagged? (tag : UInt8) : Bytes → Option (Bytes × Bytes)
  | [] => none
  | t :: rest => do
    if t ≠ tag then none
    let (n, rest) ← shortestLength? rest
    if rest.length < n then none else some (rest.take n, rest.drop n)

/-- The value of an integer that is not negative, written without needless zeros. -/
def naturalBody? : Bytes → Option Nat
  | [] => none
  | [0] => some 0
  | 0 :: b :: rest => if b < 128 then none else some (Crypto.natOfBytes (b :: rest))
  | b :: rest => if b < 128 then some (Crypto.natOfBytes (b :: rest)) else none

def natural? (bs : Bytes) : Option (Nat × Bytes) := do
  let (body, rest) ← tagged? 2 bs
  return (← naturalBody? body, rest)

def positive? (bs : Bytes) : Option (Nat × Bytes) := do
  let (n, rest) ← natural? bs
  if n = 0 then none else some (n, rest)

def sequence? (bs : Bytes) : Option Bytes :=
  match tagged? 0x30 bs with
  | some (body, []) => some body
  | _ => none

def readPublic? (bs : Bytes) : Option RsaPublic := do
  let (modulus, rest) ← positive? (← sequence? bs)
  let (exponent, rest) ← positive? rest
  if rest.isEmpty then some ⟨modulus, exponent⟩ else none

def privateNumbers? (bs : Bytes) : Option (RsaPrivate × Bytes) := do
  let (modulus, bs) ← natural? bs
  let (publicExponent, bs) ← natural? bs
  let (privateExponent, bs) ← natural? bs
  let (prime1, bs) ← natural? bs
  let (prime2, bs) ← natural? bs
  let (exponent1, bs) ← natural? bs
  let (exponent2, bs) ← natural? bs
  let (coefficient, bs) ← natural? bs
  return (⟨modulus, publicExponent, privateExponent, prime1, prime2, exponent1, exponent2,
    coefficient⟩, bs)

/-- Reads a private key and checks it. The version, which is a single byte, comes before the
numbers; that nothing is left over is found out last. -/
def readPrivate (bs : Bytes) : Except RsaFault RsaPrivate := do
  let some (body, after) := tagged? 0x30 bs | throw .encoding
  let some (version, numbers) := natural? body | throw .encoding
  if 256 ≤ version then throw .encoding
  if version ≠ 0 then throw .version
  let some (key, more) := privateNumbers? numbers | throw .encoding
  key.check
  unless more.isEmpty && after.isEmpty do throw .encoding
  return key

end LocationRelay.Key
