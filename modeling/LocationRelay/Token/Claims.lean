import LocationRelay.Json.Buffered
import LocationRelay.Principal

/-! # Device claims

What a token says about its device: the user, the device, until when the token is good and perhaps
since when. Claims are read from an object or from a list of the values in that order. The registered
claims of a token are read a second time by rules of their own.
-/
namespace LocationRelay.Token

open Json
open Text (Bytes)

structure Claims where
  username : String
  deviceId : String
  /-- When the token expires, in seconds since the epoch. -/
  expires : Nat
  issued : Option Nat
deriving DecidableEq

namespace Claims

def toJson (c : Claims) : Bytes :=
  let number := fun n => Text.encode (Text.decimal n)
  let issued := match c.issued with
    | none => []
    | some n => Text.encode ",\"iat\":" ++ number n
  Text.encode "\x7b\"username\":" ++ quoted c.username ++ Text.encode ",\"deviceId\":" ++
    quoted c.deviceId ++ Text.encode ",\"exp\":" ++ number c.expires ++ issued ++
    Text.encode "\x7d"

def ofValues? (username deviceId expires : Bytes) (issued : Option Bytes) : Option Claims := do
  return ⟨← string? username, ← string? deviceId, ← natural? expires, ← optional? natural? issued⟩

def ofMembers? (ms : List (String × Bytes)) : Option Claims := do
  ofValues? (← required? ms "username") (← required? ms "deviceId") (← required? ms "exp")
    (← member? ms "iat")

def ofJson? (json : Bytes) : Option Claims :=
  match object? json with
  | some ms => ofMembers? ms
  | none =>
    match list? json with
    | some [username, deviceId, expires] => ofValues? username deviceId expires none
    | some [username, deviceId, expires, issued] =>
      ofValues? username deviceId expires (some issued)
    | _ => none

def principal? (c : Claims) : Except NameError Principal := Principal.of? c.username c.deviceId

end Claims

/-! ## Registered claims -/

def isEmptyGroup (v : Bytes) : Bool := list? v == some [] || (object? v).map List.length == some 0

/-- Whether reading goes on after a value of which a number is expected. -/
def passesNumber (v : Bytes) : Bool :=
  match v with
  | 91 :: _ | 123 :: _ => isEmptyGroup v
  | _ => ahead 0 v != .stuck

def passesText (v : Bytes) : Bool := ahead 0 v != .stuck

def passesTexts (v : Bytes) : Bool := ahead aheadDepth v != .stuck

/-- The expiry among the registered claims, which may not be repeated. A registered claim of a wrong
type is passed over where reading can go on after it. -/
def registeredExpiry? (json : Bytes) : Option Nat := do
  let ms ← object? json
  let expires ← member? ms "exp"
  let check := fun key passes => do
    if ((← member? ms key).map passes).getD true then some () else none
  check "nbf" passesNumber
  check "sub" passesText
  check "iss" passesTexts
  check "aud" passesTexts
  natural? (← expires)

end LocationRelay.Token
