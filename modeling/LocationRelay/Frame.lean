import LocationRelay.Text.Hex

/-! # Frames

What travels over a device's socket. A payload is relayed as text when its bytes are the encoding of a
text, and as binary data otherwise.
-/
namespace LocationRelay

open Text (Bytes)

inductive CloseCode where
  | normal
  | away
  | policy
  | error
deriving DecidableEq

def CloseCode.number : CloseCode → Nat
  | normal => 1000
  | away => 1001
  | policy => 1008
  | error => 1011

inductive Frame where
  | text (content : String)
  | binary (content : Bytes)
  | ping (content : Bytes)
  | pong (content : Bytes)
  | close (code : CloseCode) (reason : String)
deriving DecidableEq

def Frame.ofPayload (payload : Bytes) : Frame :=
  match Text.decode? payload with
  | some content => .text content
  | none => .binary payload

def Frame.payload? : Frame → Option Bytes
  | text content => some (Text.encode content)
  | binary content => some content
  | _ => none

end LocationRelay
