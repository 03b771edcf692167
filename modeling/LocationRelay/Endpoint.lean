import LocationRelay.Text.Decimal
import LocationRelay.Text.Split

/-! # Gateway endpoints

An endpoint `ws://host:port` says where a gateway listens. The port is what follows the last colon, so
a host with colons in it has to stand in brackets. A single slash may close the text; it is not kept.
-/
namespace LocationRelay

inductive Scheme where
  | ws
  | wss
deriving DecidableEq

def Scheme.name : Scheme → String
  | .ws => "ws"
  | .wss => "wss"

structure Endpoint where
  scheme : Scheme
  host : String
  port : Nat
deriving DecidableEq

inductive EndpointFault where
  | empty
  | scheme
  | path
  | missingPort
  | emptyHost
  | unbracketedHost
  | port
deriving DecidableEq

def EndpointFault.message (s : String) : EndpointFault → String
  | empty => "endpoint must be non-empty (expected ws://host:port)"
  | scheme => s!"invalid endpoint (expected ws://host:port): {s}"
  | path => s!"invalid endpoint (expected ws://host:port without path/query/fragment): {s}"
  | missingPort => s!"invalid endpoint (missing :port, expected ws://host:port): {s}"
  | emptyHost => s!"invalid endpoint host (expected ws://host:port): {s}"
  | unbracketedHost =>
    s!"invalid endpoint host (IPv6 must be bracketed like ws://[::1]:9080): {s}"
  | port => s!"invalid endpoint port (expected 1..=65535): {s}"

namespace Endpoint

def hostPort (e : Endpoint) : String := e.host ++ ":" ++ Text.decimal e.port

def url (e : Endpoint) : String := e.scheme.name ++ "://" ++ e.hostPort ++ "/"

def scheme? (cs : List Char) : Option (Scheme × List Char) :=
  match Text.dropPrefix? "ws://" cs with
  | some rest => some (.ws, rest)
  | none => (Text.dropPrefix? "wss://" cs).map fun rest => (.wss, rest)

def hostAllowed (host : List Char) : Bool :=
  !host.contains ':' || (host.head? == some '[' && host.getLast? == some ']')

def ofChars? (cs : List Char) : Except EndpointFault Endpoint := do
  if cs.isEmpty then throw .empty
  let some (scheme, rest) := scheme? cs | throw .scheme
  let rest := if rest.getLast? = some '/' then rest.dropLast else rest
  if rest.any fun c => c == '/' || c == '?' || c == '#' then throw .path
  let some (host, port) := Text.splitLast? ':' rest | throw .missingPort
  let host := Text.trim host
  if host.isEmpty then throw .emptyHost
  unless hostAllowed host do throw .unbracketedHost
  let some port := Text.unsigned? Text.maxU16 (Text.trim port) | throw .port
  if port = 0 then throw .port
  return ⟨scheme, String.ofList host, port⟩

def parse? (s : String) : Except EndpointFault Endpoint := ofChars? (Text.trim s.toList)

def parse (s : String) : Except String Endpoint :=
  (parse? s).mapError (EndpointFault.message (Text.trimmed s))

end Endpoint
end LocationRelay
