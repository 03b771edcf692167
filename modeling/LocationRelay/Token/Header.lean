import LocationRelay.Json.Buffered
import LocationRelay.SigningAlgorithm

/-! # Token headers

A header names the token's algorithm. The other registered members are optional, but where they are
present they have to be of the right type: texts, a list of texts for the certificate chain, and a key
description. A header may also be written as a list of all its members in order.
-/
namespace LocationRelay.Token

open Json
open Text (Bytes)

def strings? (v : Bytes) : Option (List String) := do (← list? v).mapM string?

/-- A bare word, as a text or as an object that gives the word a value that means nothing. -/
def wordWith? (isNothing : Bytes → Bool) (v : Bytes) : Option String :=
  match string? v with
  | some s => some s
  | none =>
    match object? v with
    | some [(key, value)] => if isNothing value then some key else none
    | _ => none

def word? (v : Bytes) : Option String := wordWith? isNull v

def among? (words : List String) (word : Option String) : Option String :=
  word.bind fun s => if words.contains s then some s else none

def wordAmong? (words : List String) (v : Bytes) : Option String := among? words (word? v)

def hasParameters (ms : List (String × Bytes)) (kind : String) (curve : Bool)
    (texts : List String) : Bool :=
  let present := fun key => ((required? ms key).bind string?).isSome
  ((required? ms "kty").bind (wordAmong? [kind])).isSome &&
    (!curve || ((required? ms "crv").bind
      (wordAmong? ["P-256", "P-384", "P-521", "Ed25519"])).isSome) &&
    texts.all present

def keyAlgorithms : List String :=
  ["HS256", "HS384", "HS512", "ES256", "ES384", "RS256", "RS384", "RS512", "PS256", "PS384",
    "PS512", "EdDSA", "RSA1_5", "RSA-OAEP", "RSA-OAEP-256"]

/-- A key's algorithm; an object that names it may give it the value null or an empty object. -/
def keyAlgorithm? (v : Bytes) : Option String :=
  among? keyAlgorithms (wordWith? (fun value => isNull value || object? value == some []) v)

def keyDescription? (v : Bytes) : Option Unit := do
  if ahead aheadDepth v ≠ .read then none
  let ms ← object? v
  let text := fun key => do optional? string? (← member? ms key)
  let _ ← text "use"
  let _ ← optional? strings? (← member? ms "key_ops")
  let _ ← optional? keyAlgorithm? (← member? ms "alg")
  let _ ← text "kid"
  let _ ← text "x5u"
  let _ ← optional? strings? (← member? ms "x5c")
  let _ ← text "x5t"
  let _ ← text "x5t#S256"
  if hasParameters ms "EC" true ["x", "y"] || hasParameters ms "RSA" false ["n", "e"] ||
      hasParameters ms "oct" false ["k"] || hasParameters ms "OKP" true ["x"] then some ()
  else none

def algorithm? (v : Bytes) : Option Algorithm := (word? v).bind Algorithm.ofName?

def headerMembers : List String :=
  ["typ", "alg", "cty", "jku", "jwk", "kid", "x5u", "x5c", "x5t", "x5t#S256"]

/-- Whether a member other than the algorithm is missing, null, or of the right type. -/
def memberAllowed (key : String) (v : Option Bytes) : Bool :=
  if key = "x5c" then (optional? strings? v).isSome
  else if key = "jwk" then (optional? keyDescription? v).isSome
  else (optional? string? v).isSome

def ofMembers? (values : List (String × Option Bytes)) : Option Algorithm := do
  let alg ← algorithm? (← (← values.lookup "alg"))
  if values.all fun (key, v) => key == "alg" || memberAllowed key v then some alg else none

def headerAlgorithm? (json : Bytes) : Option Algorithm :=
  match object? json with
  | some ms => do
    ofMembers? (← headerMembers.mapM fun key => do return (key, ← member? ms key))
  | none => do
    let vs ← list? json
    if vs.length = headerMembers.length then ofMembers? (headerMembers.zip (vs.map some)) else none

def headerJson (alg : SigningAlgorithm) : String :=
  "\x7b\"typ\":\"JWT\",\"alg\":\"" ++ alg.name ++ "\"\x7d"

end LocationRelay.Token
