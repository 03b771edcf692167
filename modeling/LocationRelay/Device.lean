import LocationRelay.Endpoint
import LocationRelay.Frame
import LocationRelay.Http
import LocationRelay.Principal
import LocationRelay.Text.Decimal
import LocationRelay.Text.Hex
import LocationRelay.Text.Quoted

/-! # Devices

What a device needs to open its connection, what can go wrong on the way, and the checks made before
anything is dialled: the endpoint first, then the address as a target of requests, then the name and
the value of the header field that carries the token.
-/
namespace LocationRelay

open Text (Bytes)

structure DeviceConfig where
  endpoint : String
  authHeader : String := defaultAuthHeader
  token : Secret
  /-- How long connecting and the handshake may take together. -/
  connectTimeout : Duration := .ofSeconds 10

def defaultEndpoint : String := "ws://127.0.0.1:9080"

def DeviceConfig.listed (c : DeviceConfig) : String :=
  "DeviceConfig \x7b endpoint: " ++ Text.quoted c.endpoint ++ ", auth_header: " ++
    Text.quoted c.authHeader ++ ", token: " ++ c.token.listed ++ ", connect_timeout: " ++
    c.connectTimeout.text ++ " \x7d"

inductive DeviceError where
  | endpoint (reason : String)
  | connect (reason : String)
  | token (reason : String)
  | protocol (reason : String)
  | io (reason : String)
  | timeout (limit : Duration)
deriving DecidableEq

namespace DeviceError

def message : DeviceError → String
  | endpoint reason => "invalid endpoint: " ++ reason
  | connect reason => "failed to connect: " ++ reason
  | token reason => "token error: " ++ reason
  | protocol reason => "protocol error: " ++ reason
  | io reason => "io error: " ++ reason
  | timeout limit => "timed out after " ++ limit.text

/-- What dialling comes to where there is no network. -/
def unreachable : DeviceError := connect "IO error: Network is unreachable (os error 101)"

def unresolved : DeviceError :=
  connect ("IO error: failed to lookup address information: " ++
    "Temporary failure in name resolution")

/-- A failure with its contexts, the root cause first; the message tells the outermost first. -/
def ofChain (chain : List String) : DeviceError := io (": ".intercalate chain.reverse)

end DeviceError

structure Dial where
  endpoint : Endpoint
  field : Http.Field
  limit : Duration

def Endpoint.checkTarget (e : Endpoint) : Except DeviceError Unit :=
  if 65534 < (Text.encode e.url).length then
    .error (.endpoint "HTTP format error: uri too long")
  else
    (Http.checkAuthority e.hostPort.toList).mapError fun fault =>
      .endpoint ("HTTP format error: " ++ fault.message)

def DeviceConfig.dial? (c : DeviceConfig) : Except DeviceError Dial := do
  let endpoint ← (Endpoint.parse c.endpoint).mapError .endpoint
  endpoint.checkTarget
  unless Http.isFieldName c.authHeader do
    throw (.protocol "invalid auth header name: invalid HTTP header name")
  let value := Text.encode c.token.exposed
  unless value.all Http.isValueByte do
    throw (.token "token is not a valid header value: failed to parse header value")
  return ⟨endpoint, ⟨Text.lowerAscii c.authHeader, value⟩, c.connectTimeout⟩

/-! ## What a device receives -/

inductive DeviceEvent where
  | text (content : String)
  | binary (content : Bytes)
  | closed (code : Option Nat) (reason : String)
deriving DecidableEq

namespace DeviceEvent

/-- What a frame tells a device; pings and pongs are taken care of on the way. -/
def ofFrame? : Frame → Option DeviceEvent
  | .text content => some (text content)
  | .binary content => some (binary content)
  | .close code reason => some (closed (some code.number) reason)
  | .ping _ | .pong _ => none

def payload? : DeviceEvent → Option Bytes
  | text content => some (Text.encode content)
  | binary content => some content
  | closed _ _ => none

end DeviceEvent
end LocationRelay
