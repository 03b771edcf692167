import LocationRelay.Name
import LocationRelay.Text.Split

/-! # Principals and their topics

A principal is one device of one user. Its identity `location.<user>.<device>` names its queue and is
the routing key that reaches it; its binding pattern `location.<user>.*` pins the user only, so what
is addressed to any device of a user reaches every device of that user.
-/
namespace LocationRelay

structure Principal where
  username : Name
  deviceId : Name
deriving DecidableEq

/-- The dotted name under which a device is known to the gateway and to the broker. -/
structure Identity where
  text : String
deriving DecidableEq

instance : Ord Identity := ⟨fun a b => compare a.text b.text⟩

instance : Inhabited Identity := ⟨⟨""⟩⟩

def topicRoot : String := "location"

def defaultExchange : String := "websocket.exchange"

def defaultAuthHeader : String := "asimovlives"

namespace Principal

/-- The principal of a user name and a device id; a fault of the user name is reported first. -/
def of? (username deviceId : String) : Except NameError Principal := do
  let user ← Name.of? username
  let device ← Name.of? deviceId
  return ⟨user, device⟩

def display (p : Principal) : String := p.username.text ++ "/" ++ p.deviceId.text

def identity (p : Principal) : Identity :=
  ⟨topicRoot ++ "." ++ p.username.text ++ "." ++ p.deviceId.text⟩

def bindingPattern (p : Principal) : String := topicRoot ++ "." ++ p.username.text ++ ".*"

def routingKey (p : Principal) : String := p.identity.text

/-- Reads an identity back, ignoring blanks around it: the user name ends at the first dot after the
root word and all the rest is the device id. -/
def parse? (s : String) : Except NameError Principal :=
  let t := Text.trim s.toList
  if t.isEmpty then .error .empty
  else
    match (Text.dropPrefix? (topicRoot ++ ".") t).bind (Text.splitFirst? '.') with
    | none => .error .invalidFormat
    | some (user, device) => of? (String.ofList user) (String.ofList device)

end Principal

/-- The routing key that reaches every device of a user. Its last word is a star, which the pattern of
each of the user's devices matches like any other word. -/
def broadcastKey? (username : String) : Except NameError String :=
  (Name.of? username).map fun user => topicRoot ++ "." ++ user.text ++ ".*"

def Identity.parse? (s : String) : Except NameError Identity :=
  (Principal.parse? s).map Principal.identity

def Identity.sorted? (texts : List String) : Except NameError (List Identity) := do
  let ids ← texts.mapM Identity.parse?
  return (ids.mergeSort fun a b => (compare a b).isLE).eraseReps

end LocationRelay
