import LocationRelay.Authentication
import LocationRelay.CommandLine
import LocationRelay.Gateway
import LocationRelay.Settings.File
import LocationRelay.Token.Compact

/-! # Starting the programs

What each program does between its command line and the network: it settles its arguments and its
settings, opens the key store, makes a token. A program ends there with its usage or with an error, or
it has a plan of what to do over the network. No message broker can be reached from here, so only a
gateway that keeps its broker in itself gets to listen.
-/
namespace LocationRelay

open Text (Bytes)

structure Host where
  env : Environment
  home : String
  file : String → FileContent
  /-- Whether the folder exists in which a file is or would be. -/
  hasFolderOf : String → Bool
  stdin : Bytes
  /-- The time in seconds since the epoch. -/
  now : Nat
  /-- Whether the gateway can listen at an address. -/
  canBind : SocketAddress → Bool

inductive Ending where
  | usage (notice : Notice)
  | failure (message : String)
deriving DecidableEq

namespace Ending

def exitCode : Ending → Nat
  | usage _ => 2
  | failure _ => 1

def text (p : Program) (e : Ending) : String :=
  let lines := match e with
    | usage notice => notice.toList ++ p.usage
    | failure message => ["Error: " ++ message]
  String.join (lines.map fun line => line ++ "\n")

end Ending

namespace Host

def bytes? (h : Host) (path : String) : Option Bytes :=
  match h.file path with
  | .bytes content => some content
  | _ => none

/-- Whether there is nothing at the path, but the folder for it. -/
def canMake (h : Host) (path : String) : Bool :=
  match h.file path with
  | .missing => h.hasFolderOf path
  | _ => false

def configPath (h : Host) (given : Option String) : String :=
  given.getD (Settings.defaultPath h.home)

def settings (h : Host) (given : Option String) : Except Ending Settings :=
  let path := h.configPath given
  (Settings.load (h.file path) h.env).mapError fun _ => .failure (SettingsFault.heading path)

end Host

/-! ## The gateway -/

structure ServerPlan where
  settings : Settings
  address : SocketAddress
  authenticator : Authenticator

namespace ServerPlan

def openStore (h : Host) (s : IdentitySettings) : Except Ending KeyStore :=
  match s.databaseUrl with
  | some url =>
    (KeyStore.connect (fun path => (h.bytes? path).isSome) h.canMake url.exposed).mapError fun _ =>
      .failure "connect identity store"
  | none =>
    if s.staticKeys.size = 0 then
      .error (.failure ("no identity source configured " ++
        "(set identity.database_url or identity.static_public_keys)"))
    else
      (KeyStore.ofFiles h.bytes? s.staticKeys).mapError fun _ =>
        .failure "load static public keys"

def listenAt (a : ServerArguments) (s : ServerSettings) : Except Ending SocketAddress :=
  match a.bind with
  | some address => .ok address
  | none =>
    (ServerArguments.address? s.bind).mapError fun reason => .failure ("server.bind: " ++ reason)

def make (h : Host) (args : List String) : Except Ending ServerPlan := do
  let a ← (ServerArguments.ofArguments args).mapError .usage
  let s ← h.settings a.config
  let address ← listenAt a s.server
  let store ← openStore h s.identity
  unless s.broker.isMemory do throw (.failure "connect broker")
  unless h.canBind address do
    throw (.failure ("bind websocket listener on " ++ address.text))
  return ⟨s, address, .new store s.server.authHeader s.server.algorithm⟩

def gateway (p : ServerPlan) : Gateway := { exchange := p.settings.broker.exchange }

end ServerPlan

/-! ## Health

The process is healthy as long as it answers at all; it is ready when it has been marked so and every
check is up. A gateway is marked ready from when it listens until it has shut down, and its one check is
whether the broker is connected.
-/

structure Health where
  marked : Bool := false
  /-- Which of the checks are up. -/
  checks : List Bool := []
deriving DecidableEq

structure HealthReply where
  status : Nat
  body : String
deriving DecidableEq

namespace Health

def isReady (h : Health) : Bool := h.marked && h.checks.all id

def reply (h : Health) (method path : String) : HealthReply :=
  if method ≠ "GET" then ⟨405, ""⟩
  else
    match path with
    | "/healthz" => ⟨200, "ok"⟩
    | "/readyz" => if h.isReady then ⟨200, "ready"⟩ else ⟨503, "not-ready"⟩
    | _ => ⟨404, ""⟩

end Health

def Gateway.health (g : Gateway) (marked : Bool) : Health := ⟨marked, [!g.broker.closed]⟩

/-! ## The publisher -/

structure Publication where
  brokerUrl : Secret
  exchange : String
  routingKey : String
  payload : Bytes
deriving DecidableEq

def Publication.make (h : Host) (args : List String) : Except Ending Publication := do
  let (username, a) ← (PublisherArguments.ofArguments args).mapError .usage
  let s ← h.settings a.config
  let routingKey ← (broadcastKey? username).mapError fun e => .failure e.message
  let payload ← match a.payload with
    | some text => pure (Text.encode text)
    | none =>
      if (Text.decode? h.stdin).isSome then pure h.stdin
      else throw (.failure "read payload from stdin")
  return ⟨s.broker.url, s.broker.exchange, routingKey, payload⟩

/-- A publisher always goes to a message broker, even if the gateway keeps its own. -/
def Publication.run (h : Host) (args : List String) : Except Ending Unit := do
  let _ ← Publication.make h args
  throw (.failure "connect broker")

/-! ## The device -/

def ownTokenLifetime : Nat := 3600

def deviceToken (h : Host) (a : DeviceArguments) : Except Ending String := do
  match ← a.tokenSource.mapError .usage with
  | .given token => return token
  | .minted path username deviceId =>
    let some key := (h.bytes? path).bind Text.decode?
      | throw (.failure ("read private key " ++ path))
    let claims := Token.claimsFor username deviceId (.ofSeconds ownTokenLifetime) h.now
    (Token.mint key a.algorithm claims).mapError fun e => .failure (DeviceError.token e).message

def Dial.make (h : Host) (args : List String) : Except Ending Dial := do
  let given := h.env.get? "WAYPOINT_CLIENT_TOKEN"
  let a ← (DeviceArguments.ofArguments given args).mapError .usage
  let token ← deviceToken h a
  let config : DeviceConfig := { endpoint := a.endpoint, token := ⟨token⟩ }
  let config := match a.header with
    | some header => { config with authHeader := Text.lowerAscii header }
    | none => config
  config.dial?.mapError fun e => .failure e.message

/-- The host that is dialled, without the credentials that may stand in front of it. -/
def Dial.host (d : Dial) : String :=
  match Text.splitLast? '@' d.endpoint.host.toList with
  | some (_, host) => String.ofList host
  | none => d.endpoint.host

/-- What dialling comes to without a network: only addresses and the host's own name need no look-up,
and nothing can be reached. -/
def Dial.failure (d : Dial) : DeviceError :=
  let needsNoLookup := Text.lowerAscii d.host == "localhost" ||
    { d.endpoint with host := d.host }.address?.isOk
  if needsNoLookup then .unreachable else .unresolved

def Dial.run (h : Host) (args : List String) : Except Ending Unit := do
  throw (.failure (← Dial.make h args).failure.message)

def Program.run (p : Program) (h : Host) (args : List String) : Except Ending Unit :=
  match p with
  | .server => do let _ ← ServerPlan.make h args
  | .publisher => Publication.run h args
  | .device => Dial.run h args

end LocationRelay
