/-! # Sessions

The life of one device connection. A session starts out connecting and ends closed; once it is bound
it can only close by way of closing, during which its registration and queue are given back.
-/
namespace LocationRelay

inductive SessionState where
  | connecting
  | authenticating
  | bound
  | closing
  | closed
deriving DecidableEq, Repr

inductive SessionEvent where
  | accepted
  /-- The token is verified and the queue is bound. -/
  | authenticated
  | authRejected
  | setupFailed
  /-- The peer closed, or the socket broke. -/
  | socketClosed
  | terminated
  /-- A newer connection took over the identity. -/
  | superseded
  | shutdown
  /-- Registration and queue are given back. -/
  | released
deriving DecidableEq, Repr

def SessionState.name : SessionState → String
  | connecting => "Connecting"
  | authenticating => "Authenticating"
  | bound => "Bound"
  | closing => "Closing"
  | closed => "Closed"

def SessionEvent.name : SessionEvent → String
  | accepted => "Accepted"
  | authenticated => "Authenticated"
  | authRejected => "AuthRejected"
  | setupFailed => "SetupFailed"
  | socketClosed => "SocketClosed"
  | terminated => "Terminated"
  | superseded => "Superseded"
  | shutdown => "Shutdown"
  | released => "Released"

namespace SessionState

def all : List SessionState := [connecting, authenticating, bound, closing, closed]

def ofName? (s : String) : Option SessionState := all.find? fun state => state.name == s

def on? : SessionState → SessionEvent → Option SessionState
  | connecting, .accepted => some authenticating
  | connecting, .socketClosed | connecting, .shutdown => some closed
  | authenticating, .authenticated => some bound
  | authenticating, .authRejected | authenticating, .socketClosed
  | authenticating, .shutdown => some closed
  | authenticating, .setupFailed => some closing
  | bound, .socketClosed | bound, .terminated | bound, .superseded
  | bound, .shutdown => some closing
  | closing, .released => some closed
  | closing, .socketClosed | closing, .terminated | closing, .superseded
  | closing, .shutdown => some closing
  | _, _ => none

/-- The state after an event; an event without a place in the state changes nothing. -/
def after (s : SessionState) (e : SessionEvent) : SessionState := (s.on? e).getD s

def isTerminal (s : SessionState) : Bool := s == closed

end SessionState

def SessionEvent.all : List SessionEvent :=
  [accepted, authenticated, authRejected, setupFailed, socketClosed, terminated, superseded,
    shutdown, released]

def SessionEvent.ofName? (s : String) : Option SessionEvent := all.find? fun e => e.name == s

def refusedTransition (s : SessionState) (e : SessionEvent) : String :=
  s!"invalid session transition from {s.name} on {e.name}"

end LocationRelay
