import LocationRelay.Http
import LocationRelay.KeyStore
import LocationRelay.Token.Compact

/-! # Authentication

A token is good when its header names the expected algorithm, its signature verifies over the bytes
that were received, its claims can be read, and it has not expired. The claims can also be read
without any of that, to find out whose key to verify with.

A device shows its token in a header field, which has to be there once. The key is looked up by the
user name that the token claims; only then is the token verified, and its claims are the device's
principal.
-/
namespace LocationRelay

open Text (Bytes)

inductive Malformed where
  | shape
  | encoding
  | header
  | claims
deriving DecidableEq

def Malformed.text : Malformed → String
  | shape => "expected header.claims.signature"
  | encoding => "segment is not base64url"
  | header => "header is not valid JSON"
  | claims => "claims are not valid JSON"

inductive AuthError where
  | missingToken
  | malformed (part : Malformed)
  | unknownUser
  | store (fault : StoreFault)
  | invalidKey (reason : String)
  | algorithmMismatch (expected : SigningAlgorithm) (found : Token.Algorithm)
  | badSignature
  | expired
  | invalidClaims
deriving DecidableEq

def AuthError.label : AuthError → String
  | missingToken => "missing_token"
  | malformed _ => "malformed"
  | unknownUser => "unknown_user"
  | store _ => "store"
  | invalidKey _ => "invalid_key"
  | algorithmMismatch _ _ => "algorithm_mismatch"
  | badSignature => "bad_signature"
  | expired => "expired"
  | invalidClaims => "invalid_claims"

def AuthError.message : AuthError → String
  | missingToken => "missing auth token"
  | malformed part => "malformed token: " ++ part.text
  | unknownUser => "unknown user"
  | store _ => "identity store failed"
  | invalidKey reason => "invalid public key: " ++ reason
  | algorithmMismatch expected found =>
    "token algorithm " ++ found.name ++ " does not match expected " ++ expected.name
  | badSignature => "invalid token signature"
  | expired => "token expired"
  | invalidClaims => "token claims missing username or deviceId"

namespace Token

def readClaims (onUnreadable : AuthError) (claims : List Char) :
    Except AuthError (Claims × Nat) := do
  let some json := segment? claims | throw (.malformed .encoding)
  let some c := Claims.ofJson? json | throw onUnreadable
  let some expires := registeredExpiry? json | throw onUnreadable
  return (c, expires)

def unverifiedClaims (token : String) : Except AuthError Claims := do
  let some t := Compact.parse? token | throw (.malformed .shape)
  let some header := segment? t.header | throw (.malformed .encoding)
  if (headerAlgorithm? header).isNone then throw (.malformed .claims)
  return (← readClaims (.malformed .claims) t.claims).1

/-- The claims of a token that is good at the given time, in seconds since the epoch. -/
def verify (token : String) (key : Key.PublicKey) (expected : SigningAlgorithm) (now : Nat) :
    Except AuthError Claims := do
  let some t := Compact.parse? token | throw (.malformed .header)
  let some header := segment? t.header | throw (.malformed .header)
  let some found := headerAlgorithm? header | throw (.malformed .header)
  if found ≠ Algorithm.ofSigning expected then throw (.algorithmMismatch expected found)
  let some signature := segment? t.signature | throw (.malformed .encoding)
  unless key.verify expected t.signed signature do throw .badSignature
  let (c, expires) ← readClaims .invalidClaims t.claims
  if expires < now then throw .expired
  if Text.Blank c.username ∨ Text.Blank c.deviceId then throw .invalidClaims
  return c

end Token

/-! ## Requests -/

structure Authenticator where
  store : KeyStore
  headerName : String
  algorithm : SigningAlgorithm

namespace Authenticator

def new (store : KeyStore) (headerName : String) (algorithm : SigningAlgorithm) : Authenticator :=
  ⟨store, Text.lowerAscii headerName, algorithm⟩

def token? (a : Authenticator) (fields : List Http.Field) : Option String :=
  match Http.valuesOf a.headerName fields with
  | [value] => (Http.visibleText? value).bind Text.nonBlank?
  | _ => none

def authenticate (a : Authenticator) (fields : List Http.Field) (now : Nat) :
    Except AuthError Principal := do
  let some token := a.token? fields | throw .missingToken
  let claimed ← Token.unverifiedClaims token
  if Text.Blank claimed.username then throw .invalidClaims
  let some stored ← (a.store.lookup claimed.username).mapError .store | throw .unknownUser
  let key ← (Key.PublicKey.ofStored stored).mapError fun e => .invalidKey e.text
  let claims ← Token.verify token key a.algorithm now
  if claims.username ≠ claimed.username then throw .badSignature
  claims.principal?.mapError fun _ => .invalidClaims

end Authenticator

end LocationRelay
