import LocationRelay.Key.Material
import LocationRelay.Token.Claims
import LocationRelay.Token.Header

/-! # Compact tokens

A token is three segments of base64 text between two dots, taken from the right: header, claims and
signature. What is signed is the text before the last dot.

A token is made by writing header and claims as JSON and signing the two segments. A token made for a
while carries the time of its making, and expires the given number of whole seconds later, or at the
last second there is.
-/
namespace LocationRelay.Token

open Text (Bytes)

structure Compact where
  /-- The text that is signed. -/
  message : List Char
  header : List Char
  claims : List Char
  signature : List Char
deriving DecidableEq

def Compact.parse? (token : String) : Option Compact := do
  let (message, signature) ← Text.splitLast? '.' token.toList
  let (header, claims) ← Text.splitLast? '.' message
  return ⟨message, header, claims, signature⟩

def segment? (cs : List Char) : Option Bytes := Base64.decode? Base64.token cs

def Compact.signed (c : Compact) : Bytes := Text.encode (String.ofList c.message)

/-! ## Minting -/

def segment (bs : Bytes) : List Char := Base64.encode Base64.token bs

def message (alg : SigningAlgorithm) (c : Claims) : List Char :=
  segment (Text.encode (headerJson alg)) ++ '.' :: segment c.toJson

def mint (keyText : String) (alg : SigningAlgorithm) (c : Claims) : Except String String := do
  let key ← (Key.PrivateKey.ofText keyText).mapError fun e => "invalid private key: " ++ e.text
  let m := message alg c
  let signature ← (key.sign alg (Text.encode (String.ofList m))).mapError fun e =>
    "signing failed: " ++ e.text
  return String.ofList (m ++ '.' :: segment signature)

def claimsFor (username deviceId : String) (ttl : Duration) (now : Nat) : Claims :=
  ⟨username, deviceId, min (now + ttl.seconds) Text.maxU64, some now⟩

end LocationRelay.Token
