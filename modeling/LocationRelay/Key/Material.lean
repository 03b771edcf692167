import LocationRelay.Base64
import LocationRelay.Key.Der
import LocationRelay.Key.Rsa
import LocationRelay.Text.Split

/-! # Key material

Keys travel as base64 text between a line that begins and a line that ends them, both of which name
what is inside. Between the two there may be headers, up to the first empty line. Blank characters in the
base64 text count for nothing.

Getting at the bytes of an RSA key: envelopes whose label names RSA hold the key itself; envelopes
that hold a key of any kind or a certificate have to mention RSA first among the kinds of key known
here, and the key is the first string of bits or bytes in them. Stored public keys may be a whole
envelope, one with its line ends written as a backslash and a letter n, or the bare base64 text.
-/
namespace LocationRelay.Key

open Text (Bytes)

/-- What follows the first place where the mark is found by reading on, character by character, with
the given part of it still to come. A character that breaks off a mark is passed over: it begins no
other, so that a sixth dash hides a mark of five. -/
def seek? (mark : List Char) : List Char → List Char → Option (List Char)
  | [], cs => some cs
  | _ :: _, [] => none
  | d :: due, c :: cs => if c = d then seek? mark due cs else seek? mark mark cs

def cutAt? (mark cs : List Char) : Option (List Char × List Char) :=
  (seek? mark mark cs).map fun after =>
    (cs.take (cs.length - mark.length - after.length), after)

structure Envelope where
  label : String
  contents : Bytes
deriving DecidableEq

namespace Envelope

def isSpace (c : Char) : Bool := c == ' ' || c == '\t' || c == '\n' || c == '\r'

def headersAllowed (headers : List Char) : Bool :=
  let lines := headers.splitOn '\n'
  let lines := if lines.getLast? == some [] then lines.dropLast else lines
  lines.all (·.contains ':')

def splitBody (body : List Char) : List Char × List Char :=
  match cutAt? ['\n', '\n'] body with
  | some parts => parts
  | none => (cutAt? ['\r', '\n', '\r', '\n'] body).getD ([], body)

def parse? (text : List Char) : Option Envelope := do
  let (_, rest) ← cutAt? "-----BEGIN ".toList text
  let (label, rest) ← cutAt? "-----".toList rest
  let (body, rest) ← cutAt? "-----END ".toList (rest.dropWhile isSpace)
  let (closing, _) ← cutAt? "-----".toList rest
  if label.isEmpty || label != closing then none
  let (headers, data) := splitBody body
  let contents ← Base64.decode? Base64.standard (data.filter fun c => !Text.isBlank c)
  if headersAllowed headers then some ⟨String.ofList label, contents⟩ else none

end Envelope

/-! ## The key in an envelope -/

inductive MaterialFault where
  | format
  /-- No string of bits or bytes is inside. -/
  | noBits
deriving DecidableEq

def MaterialFault.text : MaterialFault → String
  | format => "InvalidKeyFormat"
  | noBits => "InvalidEcdsaKey"

/-- Whether an object identifier names RSA, or another kind of key. -/
def isRsa? (arcs : List Nat) : Option Bool :=
  if arcs = [1, 2, 840, 113549, 1, 1, 1] then some true
  else if arcs = [1, 2, 840, 10045, 2, 1] ∨ arcs = [1, 3, 101, 112] then some false
  else none

def material (text : String) : Except MaterialFault Bytes := do
  let some envelope := Envelope.parse? text.toList | throw .format
  let some blocks := Der.blocks? envelope.contents | throw .format
  match envelope.label with
  | "RSA PRIVATE KEY" | "RSA PUBLIC KEY" => return envelope.contents
  | "PRIVATE KEY" | "PUBLIC KEY" | "CERTIFICATE" =>
    if Der.findIdentifierIn? isRsa? blocks = some true then
      match Der.findStringIn? blocks with
      | some content => return content
      | none => throw .noBits
    else throw .format
  | _ => throw .format

/-- Every backslash that is followed by a letter n becomes, together with it, the end of a line. -/
def unescapeLines : List Char → List Char
  | [] => []
  | '\\' :: 'n' :: cs => '\n' :: unescapeLines cs
  | c :: cs => c :: unescapeLines cs

def wrapBase64 (body : List Char) : List Char :=
  "-----BEGIN PUBLIC KEY-----\n".toList ++
    (Crypto.chunks 64 body).flatMap (· ++ ['\n']) ++ "-----END PUBLIC KEY-----".toList

def normalizeChars (raw : List Char) : List Char :=
  let t := Text.trim (unescapeLines raw)
  if "-----BEGIN".toList.isPrefixOf t then t
  else wrapBase64 (t.filter fun c => !Text.isBlank c)

def normalize (raw : String) : String := String.ofList (normalizeChars raw.toList)

structure PublicKey where
  bytes : Bytes
deriving DecidableEq

def PublicKey.ofStored (raw : String) : Except MaterialFault PublicKey :=
  (material (normalize raw)).map PublicKey.mk

/-- Whether a signature is good; bytes that are no key verify nothing. -/
def PublicKey.verify (k : PublicKey) (alg : SigningAlgorithm) (message signature : Bytes) : Bool :=
  match readPublic? k.bytes with
  | some key => key.verify alg message signature
  | none => false

structure PrivateKey where
  bytes : Bytes
deriving DecidableEq

def PrivateKey.ofText (text : String) : Except MaterialFault PrivateKey :=
  (material (Text.trimmed text)).map PrivateKey.mk

def PrivateKey.sign (k : PrivateKey) (alg : SigningAlgorithm) (message : Bytes) :
    Except Crypto.RsaFault Bytes := do
  (← readPrivate k.bytes).sign alg message

end LocationRelay.Key
