import LocationRelay.Name

/-! # Signing algorithms

The RSA signature algorithms with which a device token may be signed, and the algorithms that a token's
header may name: all the registered ones, of which the gateway expects one of the three.
-/
namespace LocationRelay

/-- RSASSA-PKCS1-v1_5 with the SHA-2 hash of the given width. -/
inductive SigningAlgorithm where
  | rs256
  | rs384
  | rs512
deriving DecidableEq, Repr

namespace SigningAlgorithm

instance : Inhabited SigningAlgorithm := ⟨rs512⟩

def name : SigningAlgorithm → String
  | rs256 => "RS256"
  | rs384 => "RS384"
  | rs512 => "RS512"

def parse? (s : String) : Except NameError SigningAlgorithm :=
  let t := Text.trimmed s
  if t.isEmpty then .error .empty
  else
    match Text.upperAscii t with
    | "RS256" => .ok rs256
    | "RS384" => .ok rs384
    | "RS512" => .ok rs512
    | other => .error (.unknownAlgorithm other)

end SigningAlgorithm

end LocationRelay

namespace LocationRelay.Token

inductive Algorithm where
  | hs256
  | hs384
  | hs512
  | es256
  | es384
  | rs256
  | rs384
  | rs512
  | ps256
  | ps384
  | ps512
  | edDSA
deriving DecidableEq

namespace Algorithm

def name : Algorithm → String
  | hs256 => "HS256"
  | hs384 => "HS384"
  | hs512 => "HS512"
  | es256 => "ES256"
  | es384 => "ES384"
  | rs256 => "RS256"
  | rs384 => "RS384"
  | rs512 => "RS512"
  | ps256 => "PS256"
  | ps384 => "PS384"
  | ps512 => "PS512"
  | edDSA => "EdDSA"

def all : List Algorithm :=
  [hs256, hs384, hs512, es256, es384, rs256, rs384, rs512, ps256, ps384, ps512, edDSA]

def ofName? (s : String) : Option Algorithm := all.find? fun a => a.name == s

def ofSigning : SigningAlgorithm → Algorithm
  | .rs256 => rs256
  | .rs384 => rs384
  | .rs512 => rs512

end Algorithm

end LocationRelay.Token
