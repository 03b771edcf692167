import LocationRelay.Crypto.Sha2
import LocationRelay.SigningAlgorithm

/-! # RSA signatures

Signatures with the padding of PKCS #1 version 1.5. The padded form of a hash has as many bytes as the
modulus; a signature is good when raising it to the public exponent gives back that form.
-/
namespace LocationRelay.Crypto

open Text (Bytes)

def powMod (base exponent modulus : Nat) : Nat :=
  if h : exponent = 0 then 1 % modulus
  else
    let half := powMod (base * base % modulus) (exponent / 2) modulus
    if exponent % 2 = 1 then half * base % modulus else half
termination_by exponent
decreasing_by omega

def bitLength (n : Nat) : Nat := if n = 0 then 0 else n.log2 + 1

def byteLength (n : Nat) : Nat := (bitLength n + 7) / 8

/-- What stands before the hash in its padded form: the hash function's name and the form of the
hash, encoded. -/
def hashPrefix : SigningAlgorithm → Bytes
  | .rs256 => [0x30, 0x31, 0x30, 0x0d, 0x06, 0x09, 0x60, 0x86, 0x48, 0x01, 0x65, 0x03, 0x04, 0x02,
      0x01, 0x05, 0x00, 0x04, 0x20]
  | .rs384 => [0x30, 0x41, 0x30, 0x0d, 0x06, 0x09, 0x60, 0x86, 0x48, 0x01, 0x65, 0x03, 0x04, 0x02,
      0x02, 0x05, 0x00, 0x04, 0x30]
  | .rs512 => [0x30, 0x51, 0x30, 0x0d, 0x06, 0x09, 0x60, 0x86, 0x48, 0x01, 0x65, 0x03, 0x04, 0x02,
      0x03, 0x05, 0x00, 0x04, 0x40]

def hashOf : SigningAlgorithm → Bytes → Bytes
  | .rs256 => sha256
  | .rs384 => sha384
  | .rs512 => sha512

def padded (alg : SigningAlgorithm) (size : Nat) (message : Bytes) : Bytes :=
  let hashed := hashPrefix alg ++ hashOf alg message
  [0, 1] ++ List.replicate (size - hashed.length - 3) 0xFF ++ [0] ++ hashed

structure RsaPublic where
  modulus : Nat
  exponent : Nat
deriving DecidableEq

def RsaPublic.isUsable (k : RsaPublic) : Bool :=
  256 ≤ byteLength k.modulus && bitLength k.modulus ≤ 8192 && k.modulus % 2 == 1 &&
    3 ≤ k.exponent && k.exponent < 0x200000000 && k.exponent % 2 == 1

def RsaPublic.verify (k : RsaPublic) (alg : SigningAlgorithm) (message signature : Bytes) : Bool :=
  let size := byteLength k.modulus
  let s := natOfBytes signature
  k.isUsable && signature.length == size && s < k.modulus &&
    powMod s k.exponent k.modulus == natOfBytes (padded alg size message)

structure RsaPrivate where
  modulus : Nat
  publicExponent : Nat
  privateExponent : Nat
  prime1 : Nat
  prime2 : Nat
  exponent1 : Nat
  exponent2 : Nat
  coefficient : Nat
deriving DecidableEq

inductive RsaFault where
  | encoding
  | version
  | tooSmall
  | tooLarge
  | component
  | inconsistent
  | primeLength
  /-- A number that serves as a modulus is too short for that. -/
  | unexpected
  /-- What was signed does not verify. -/
  | signing
deriving DecidableEq

def RsaFault.text : RsaFault → String
  | encoding => "RSA key invalid: InvalidEncoding"
  | version => "RSA key invalid: VersionNotSupported"
  | tooSmall => "RSA key invalid: TooSmall"
  | tooLarge => "RSA key invalid: TooLarge"
  | component => "RSA key invalid: InvalidComponent"
  | inconsistent => "RSA key invalid: InconsistentComponents"
  | primeLength => "RSA key invalid: PrivateModulusLenNotMultipleOf512Bits"
  | unexpected => "RSA key invalid: UnexpectedError"
  | signing => "RsaFailedSigning"

namespace RsaPrivate

/-- Checks a number that serves as a modulus: it has four words of 64 bits at least and 128 at most,
and it is odd. -/
def checkModulus (n : Nat) : Except RsaFault Unit := do
  if byteLength n ≤ 24 then throw .unexpected
  if 1024 < byteLength n then throw .tooLarge
  if n % 2 = 0 then throw .component

def checkPublicExponent (e : Nat) : Except RsaFault Unit := do
  if 5 < byteLength e then throw .tooLarge
  if e = 0 then throw .encoding
  if e < 65537 then throw .tooSmall
  if 0x200000000 ≤ e then throw .tooLarge
  if e % 2 = 0 then throw .component

def checkPrime (half p : Nat) : Except RsaFault Unit := do
  checkModulus p
  if bitLength p ≠ half then throw .inconsistent
  if half % 512 ≠ 0 then throw .primeLength

def check (k : RsaPrivate) : Except RsaFault Unit := do
  let bits := bitLength k.modulus
  let half := (bits + 1) / 2
  checkModulus k.modulus
  if byteLength k.modulus < 256 then throw .tooSmall
  if 4096 < bits then throw .tooLarge
  checkPublicExponent k.publicExponent
  checkPrime half k.prime1
  checkPrime half k.prime2
  if k.prime1 * k.prime2 % k.modulus ≠ 0 then throw .inconsistent
  if (checkModulus k.privateExponent).toOption.isNone then throw .component
  if bitLength k.privateExponent ≤ half ∨ k.modulus ≤ k.privateExponent then throw .inconsistent
  if k.prime1 ≤ k.coefficient then throw .component
  if k.coefficient * k.prime2 % k.prime1 ≠ 1 then throw .inconsistent
  if k.prime1 ≤ k.exponent1 ∨ k.prime2 ≤ k.exponent2 then throw .inconsistent
  if k.exponent1 % 2 = 0 ∨ k.exponent2 % 2 = 0 then throw .inconsistent

/-- Raises to the private exponent, one prime at a time. -/
def power (k : RsaPrivate) (m : Nat) : Nat :=
  let m1 := powMod m k.exponent1 k.prime1
  let m2 := powMod m k.exponent2 k.prime2
  let difference := (m1 + k.prime1 - m2 % k.prime1) % k.prime1
  m2 + (k.coefficient * difference % k.prime1) * k.prime2

/-- The signature of a message, verified once more before it is given out. -/
def sign (k : RsaPrivate) (alg : SigningAlgorithm) (message : Bytes) : Except RsaFault Bytes := do
  let size := byteLength k.modulus
  let m := natOfBytes (padded alg size message)
  let s := k.power m
  if powMod s k.publicExponent k.modulus = m then return bytesOfNat size s
  throw .signing

end RsaPrivate
end LocationRelay.Crypto
